import ScriptRunner.Text.CombiningClass

/-!
# Composed texts

A character with marks can often be written in several ways. In the composed form of a text, the
Unicode normal form C, everything is first taken apart, then the marks of each character are put in
the order of their classes, and then as much as possible is put together again.
-/

namespace ScriptRunner.Text

/-- The characters that can be put together from two others, with the numbers of these. -/
def composites : Table := .ofWords 0xc0 "
  C41.300 C41.301 C41.302 C41.303 C41.308 C41.30a N C43.327 C45.300 C45.301 C45.302 C45.308
  C49.300 C49.301 C49.302 C49.308 N C4e.303 C4f.300 C4f.301 C4f.302 C4f.303 C4f.308 2N C55.300
  C55.301 C55.302 C55.308 C59.301 2N C61.300 C61.301 C61.302 C61.303 C61.308 C61.30a N C63.327
  C65.300 C65.301 C65.302 C65.308 C69.300 C69.301 C69.302 C69.308 N C6e.303 C6f.300 C6f.301
  C6f.302 C6f.303 C6f.308 2N C75.300 C75.301 C75.302 C75.308 C79.301 N C79.308 C41.304 C61.304
  C41.306 C61.306 C41.328 C61.328 C43.301 C63.301 C43.302 C63.302 C43.307 C63.307 C43.30c C63.30c
  C44.30c C64.30c 2N C45.304 C65.304 C45.306 C65.306 C45.307 C65.307 C45.328 C65.328 C45.30c
  C65.30c C47.302 C67.302 C47.306 C67.306 C47.307 C67.307 C47.327 C67.327 C48.302 C68.302 2N
  C49.303 C69.303 C49.304 C69.304 C49.306 C69.306 C49.328 C69.328 C49.307 3N C4a.302 C6a.302
  C4b.327 C6b.327 N C4c.301 C6c.301 C4c.327 C6c.327 C4c.30c C6c.30c 4N C4e.301 C6e.301 C4e.327
  C6e.327 C4e.30c C6e.30c 3N C4f.304 C6f.304 C4f.306 C6f.306 C4f.30b C6f.30b 2N C52.301 C72.301
  C52.327 C72.327 C52.30c C72.30c C53.301 C73.301 C53.302 C73.302 C53.327 C73.327 C53.30c C73.30c
  C54.327 C74.327 C54.30c C74.30c 2N C55.303 C75.303 C55.304 C75.304 C55.306 C75.306 C55.30a
  C75.30a C55.30b C75.30b C55.328 C75.328 C57.302 C77.302 C59.302 C79.302 C59.308 C5a.301 C7a.301
  C5a.307 C7a.307 C5a.30c C7a.30c 21N C4f.31b C6f.31b dN C55.31b C75.31b 1cN C41.30c C61.30c
  C49.30c C69.30c C4f.30c C6f.30c C55.30c C75.30c Cdc.304 Cfc.304 Cdc.301 Cfc.301 Cdc.30c Cfc.30c
  Cdc.300 Cfc.300 N Cc4.304 Ce4.304 C226.304 C227.304 Cc6.304 Ce6.304 2N C47.30c C67.30c C4b.30c
  C6b.30c C4f.328 C6f.328 C1ea.304 C1eb.304 C1b7.30c C292.30c C6a.30c 3N C47.301 C67.301 2N
  C4e.300 C6e.300 Cc5.301 Ce5.301 Cc6.301 Ce6.301 Cd8.301 Cf8.301 C41.30f C61.30f C41.311 C61.311
  C45.30f C65.30f C45.311 C65.311 C49.30f C69.30f C49.311 C69.311 C4f.30f C6f.30f C4f.311 C6f.311
  C52.30f C72.30f C52.311 C72.311 C55.30f C75.30f C55.311 C75.311 C53.326 C73.326 C54.326 C74.326
  2N C48.30c C68.30c 6N C41.307 C61.307 C45.327 C65.327 Cd6.304 Cf6.304 Cd5.304 Cf5.304 C4f.307
  C6f.307 C22e.304 C22f.304 C59.304 C79.304 151N Ca8.301 C391.301 N C395.301 C397.301 C399.301 N
  C39f.301 N C3a5.301 C3a9.301 C3ca.301 19N C399.308 C3a5.308 C3b1.301 C3b5.301 C3b7.301 C3b9.301
  C3cb.301 19N C3b9.308 C3c5.308 C3bf.301 C3c5.301 C3c9.301 4N C3d2.301 C3d2.308 2bN C415.300
  C415.308 N C413.301 3N C406.308 4N C41a.301 C418.300 C423.306 aN C418.306 1fN C438.306 16N
  C435.300 C435.308 N C433.301 3N C456.308 4N C43a.301 C438.300 C443.306 17N C474.30f C475.30f 49N
  C416.306 C436.306 dN C410.306 C430.306 C410.308 C430.308 2N C415.306 C435.306 2N C4d8.308
  C4d9.308 C416.308 C436.308 C417.308 C437.308 2N C418.304 C438.304 C418.308 C438.308 C41e.308
  C43e.308 2N C4e8.308 C4e9.308 C42d.308 C44d.308 C423.304 C443.304 C423.308 C443.308 C423.30b
  C443.30b C427.308 C447.308 2N C42b.308 C44b.308 128N C627.653 C627.654 C648.654 C627.655
  C64a.654 99N C6d5.654 N C6c1.654 10N C6d2.654 255N C928.93c 7N C930.93c 2N C933.93c 96N C9c7.9be
  C9c7.9d7 17bN Cb47.b56 2N Cb47.b3e Cb47.b57 47N Cb92.bd7 35N Cbc6.bbe Cbc7.bbe Cbc6.bd7 7bN
  Cc46.c56 77N Ccbf.cd5 6N Ccc6.cd5 Ccc6.cd6 N Ccc6.cc2 Ccca.cd5 7eN Cd46.d3e Cd47.d3e Cd46.d57
  8dN Cdd9.dca N Cdd9.dcf Cddc.dca Cdd9.ddf 247N C1025.102e adfN C1b05.1b35 N C1b07.1b35 N
  C1b09.1b35 N C1b0b.1b35 N C1b0d.1b35 3N C1b11.1b35 28N C1b3a.1b35 N C1b3c.1b35 2N C1b3e.1b35
  C1b3f.1b35 N C1b42.1b35 2bcN C41.325 C61.325 C42.307 C62.307 C42.323 C62.323 C42.331 C62.331
  Cc7.301 Ce7.301 C44.307 C64.307 C44.323 C64.323 C44.331 C64.331 C44.327 C64.327 C44.32d C64.32d
  C112.300 C113.300 C112.301 C113.301 C45.32d C65.32d C45.330 C65.330 C228.306 C229.306 C46.307
  C66.307 C47.304 C67.304 C48.307 C68.307 C48.323 C68.323 C48.308 C68.308 C48.327 C68.327 C48.32e
  C68.32e C49.330 C69.330 Ccf.301 Cef.301 C4b.301 C6b.301 C4b.323 C6b.323 C4b.331 C6b.331 C4c.323
  C6c.323 C1e36.304 C1e37.304 C4c.331 C6c.331 C4c.32d C6c.32d C4d.301 C6d.301 C4d.307 C6d.307
  C4d.323 C6d.323 C4e.307 C6e.307 C4e.323 C6e.323 C4e.331 C6e.331 C4e.32d C6e.32d Cd5.301 Cf5.301
  Cd5.308 Cf5.308 C14c.300 C14d.300 C14c.301 C14d.301 C50.301 C70.301 C50.307 C70.307 C52.307
  C72.307 C52.323 C72.323 C1e5a.304 C1e5b.304 C52.331 C72.331 C53.307 C73.307 C53.323 C73.323
  C15a.307 C15b.307 C160.307 C161.307 C1e62.307 C1e63.307 C54.307 C74.307 C54.323 C74.323 C54.331
  C74.331 C54.32d C74.32d C55.324 C75.324 C55.330 C75.330 C55.32d C75.32d C168.301 C169.301
  C16a.308 C16b.308 C56.303 C76.303 C56.323 C76.323 C57.300 C77.300 C57.301 C77.301 C57.308
  C77.308 C57.307 C77.307 C57.323 C77.323 C58.307 C78.307 C58.308 C78.308 C59.307 C79.307 C5a.302
  C7a.302 C5a.323 C7a.323 C5a.331 C7a.331 C68.331 C74.308 C77.30a C79.30a N C17f.307 4N C41.323
  C61.323 C41.309 C61.309 Cc2.301 Ce2.301 Cc2.300 Ce2.300 Cc2.309 Ce2.309 Cc2.303 Ce2.303
  C1ea0.302 C1ea1.302 C102.301 C103.301 C102.300 C103.300 C102.309 C103.309 C102.303 C103.303
  C1ea0.306 C1ea1.306 C45.323 C65.323 C45.309 C65.309 C45.303 C65.303 Cca.301 Cea.301 Cca.300
  Cea.300 Cca.309 Cea.309 Cca.303 Cea.303 C1eb8.302 C1eb9.302 C49.309 C69.309 C49.323 C69.323
  C4f.323 C6f.323 C4f.309 C6f.309 Cd4.301 Cf4.301 Cd4.300 Cf4.300 Cd4.309 Cf4.309 Cd4.303 Cf4.303
  C1ecc.302 C1ecd.302 C1a0.301 C1a1.301 C1a0.300 C1a1.300 C1a0.309 C1a1.309 C1a0.303 C1a1.303
  C1a0.323 C1a1.323 C55.323 C75.323 C55.309 C75.309 C1af.301 C1b0.301 C1af.300 C1b0.300 C1af.309
  C1b0.309 C1af.303 C1b0.303 C1af.323 C1b0.323 C59.300 C79.300 C59.323 C79.323 C59.309 C79.309
  C59.303 C79.303 6N C3b1.313 C3b1.314 C1f00.300 C1f01.300 C1f00.301 C1f01.301 C1f00.342 C1f01.342
  C391.313 C391.314 C1f08.300 C1f09.300 C1f08.301 C1f09.301 C1f08.342 C1f09.342 C3b5.313 C3b5.314
  C1f10.300 C1f11.300 C1f10.301 C1f11.301 2N C395.313 C395.314 C1f18.300 C1f19.300 C1f18.301
  C1f19.301 2N C3b7.313 C3b7.314 C1f20.300 C1f21.300 C1f20.301 C1f21.301 C1f20.342 C1f21.342
  C397.313 C397.314 C1f28.300 C1f29.300 C1f28.301 C1f29.301 C1f28.342 C1f29.342 C3b9.313 C3b9.314
  C1f30.300 C1f31.300 C1f30.301 C1f31.301 C1f30.342 C1f31.342 C399.313 C399.314 C1f38.300
  C1f39.300 C1f38.301 C1f39.301 C1f38.342 C1f39.342 C3bf.313 C3bf.314 C1f40.300 C1f41.300
  C1f40.301 C1f41.301 2N C39f.313 C39f.314 C1f48.300 C1f49.300 C1f48.301 C1f49.301 2N C3c5.313
  C3c5.314 C1f50.300 C1f51.300 C1f50.301 C1f51.301 C1f50.342 C1f51.342 N C3a5.314 N C1f59.300 N
  C1f59.301 N C1f59.342 C3c9.313 C3c9.314 C1f60.300 C1f61.300 C1f60.301 C1f61.301 C1f60.342
  C1f61.342 C3a9.313 C3a9.314 C1f68.300 C1f69.300 C1f68.301 C1f69.301 C1f68.342 C1f69.342 C3b1.300
  N C3b5.300 N C3b7.300 N C3b9.300 N C3bf.300 N C3c5.300 N C3c9.300 3N C1f00.345 C1f01.345
  C1f02.345 C1f03.345 C1f04.345 C1f05.345 C1f06.345 C1f07.345 C1f08.345 C1f09.345 C1f0a.345
  C1f0b.345 C1f0c.345 C1f0d.345 C1f0e.345 C1f0f.345 C1f20.345 C1f21.345 C1f22.345 C1f23.345
  C1f24.345 C1f25.345 C1f26.345 C1f27.345 C1f28.345 C1f29.345 C1f2a.345 C1f2b.345 C1f2c.345
  C1f2d.345 C1f2e.345 C1f2f.345 C1f60.345 C1f61.345 C1f62.345 C1f63.345 C1f64.345 C1f65.345
  C1f66.345 C1f67.345 C1f68.345 C1f69.345 C1f6a.345 C1f6b.345 C1f6c.345 C1f6d.345 C1f6e.345
  C1f6f.345 C3b1.306 C3b1.304 C1f70.345 C3b1.345 C3ac.345 N C3b1.342 C1fb6.345 C391.306 C391.304
  C391.300 N C391.345 4N Ca8.342 C1f74.345 C3b7.345 C3ae.345 N C3b7.342 C1fc6.345 C395.300 N
  C397.300 N C397.345 C1fbf.300 C1fbf.301 C1fbf.342 C3b9.306 C3b9.304 C3ca.300 3N C3b9.342
  C3ca.342 C399.306 C399.304 C399.300 2N C1ffe.300 C1ffe.301 C1ffe.342 C3c5.306 C3c5.304 C3cb.300
  N C3c1.313 C3c1.314 C3c5.342 C3cb.342 C3a5.306 C3a5.304 C3a5.300 N C3a1.314 Ca8.300 4N C1f7c.345
  C3c9.345 C3ce.345 N C3c9.342 C1ff6.345 C39f.300 N C3a9.300 N C3a9.345 19dN C2190.338 C2192.338
  12N C2194.338 1eN C21d0.338 C21d4.338 C21d2.338 34N C2203.338 4N C2208.338 2N C220b.338 17N
  C2223.338 N C2225.338 1aN C223c.338 2N C2243.338 2N C2245.338 N C2248.338 16N C3d.338 N
  C2261.338 aN C224d.338 C3c.338 C3e.338 C2264.338 C2265.338 2N C2272.338 C2273.338 2N C2276.338
  C2277.338 6N C227a.338 C227b.338 2N C2282.338 C2283.338 2N C2286.338 C2287.338 22N C22a2.338
  C22a8.338 C22a9.338 C22ab.338 30N C227c.338 C227d.338 C2291.338 C2292.338 6N C22b2.338 C22b3.338
  C22b4.338 C22b5.338 d5eN C304b.3099 N C304d.3099 N C304f.3099 N C3051.3099 N C3053.3099 N
  C3055.3099 N C3057.3099 N C3059.3099 N C305b.3099 N C305d.3099 N C305f.3099 N C3061.3099 2N
  C3064.3099 N C3066.3099 N C3068.3099 6N C306f.3099 C306f.309a N C3072.3099 C3072.309a N
  C3075.3099 C3075.309a N C3078.3099 C3078.309a N C307b.3099 C307b.309a 16N C3046.3099 9N
  C309d.3099 dN C30ab.3099 N C30ad.3099 N C30af.3099 N C30b1.3099 N C30b3.3099 N C30b5.3099 N
  C30b7.3099 N C30b9.3099 N C30bb.3099 N C30bd.3099 N C30bf.3099 N C30c1.3099 2N C30c4.3099 N
  C30c6.3099 N C30c8.3099 6N C30cf.3099 C30cf.309a N C30d2.3099 C30d2.309a N C30d5.3099 C30d5.309a
  N C30d8.3099 C30d8.309a N C30db.3099 C30db.309a 16N C30a6.3099 2N C30ef.3099 C30f0.3099
  C30f1.3099 C30f2.3099 3N C30fd.3099 d4caN C105d2.307 1aN C105da.307 ab5N C11099.110ba N
  C1109b.110ba eN C110a5.110ba 82N C11131.11127 C11132.11127 21bN C11347.1133e C11347.11357 36N
  C11382.113c9 N C11384.113bb 8N C1138b.113c2 2N C11390.113c9 33N C113c2.113c2 N C113c2.113b8
  C113c2.113c9 f2N C114b9.114ba C114b9.114b0 N C114b9.114bd fbN C115b8.115af C115b9.115af 37cN
  C11935.11930 47e8N C1611e.1611e C1611e.16129 C1611e.1611f C16129.1611f C1611e.16120 C16121.1611f
  C16122.1611f C16121.16120 c3fN C16d67.16d67 C16d63.16d67 C16d69.16d67"

/-! ## Syllables

Korean syllables are not in the table. Their numbers follow from the numbers of their parts: a
leading consonant, a vowel, and perhaps a trailing consonant. -/

/-- The number of the first syllable. -/
def firstSyllable : Nat := 0xAC00

/-- The number of the first leading consonant. -/
def firstLeading : Nat := 0x1100

/-- The number of the first vowel. -/
def firstVowel : Nat := 0x1161

/-- The number before that of the first trailing consonant, which stands for none. -/
def noTrailing : Nat := 0x11A7

/-- How many leading consonants, vowels and choices of a trailing consonant there are. -/
def leadingCount : Nat := 19

/-- How many vowels there are. -/
def vowelCount : Nat := 21

/-- How many choices of a trailing consonant there are. -/
def trailingCount : Nat := 28

/-- The parts of a syllable. -/
def syllableParts? (c : Char) : Option Text :=
  let place := c.toNat - firstSyllable
  if firstSyllable ≤ c.toNat ∧ place < leadingCount * vowelCount * trailingCount then
    let leading := Char.ofNat (firstLeading + place / (vowelCount * trailingCount))
    let vowel := Char.ofNat (firstVowel + place / trailingCount % vowelCount)
    let trailing := place % trailingCount
    some ([leading, vowel] ++ if trailing = 0 then [] else [Char.ofNat (noTrailing + trailing)])
  else none

/-- The syllable of two parts, of which the first may be a syllable. -/
def syllable? (a b : Char) : Option Char :=
  let leading := a.toNat - firstLeading
  let vowel := b.toNat - firstVowel
  let place := a.toNat - firstSyllable
  let trailing := b.toNat - noTrailing
  if firstLeading ≤ a.toNat ∧ leading < leadingCount ∧ firstVowel ≤ b.toNat ∧ vowel < vowelCount then
    some (Char.ofNat (firstSyllable + (leading * vowelCount + vowel) * trailingCount))
  else if firstSyllable ≤ a.toNat ∧ place < leadingCount * vowelCount * trailingCount
      ∧ place % trailingCount = 0 ∧ noTrailing < b.toNat ∧ trailing < trailingCount then
    some (Char.ofNat (a.toNat + trailing))
  else none

/-! ## Taking apart -/

/-- The two characters that a character is put together from. -/
def pair? (c : Char) : Option (Char × Char) :=
  match composites.find? c with
  | some (⟨_, _, [a, b]⟩, _) => some (Char.ofNat a, Char.ofNat b)
  | _ => none

/-- How often the first character of a pair can be a pair again. -/
def maxDepth : Nat := 4

/-- A character with its pairs taken apart, down to a depth. -/
def apart : (depth : Nat) → Char → Text
  | 0, c => [c]
  | depth + 1, c =>
    match pair? c with
    | some (a, b) => apart depth a ++ [b]
    | none => [c]

/-- A text taken apart. -/
def decomposed (s : Text) : Text :=
  s.flatMap fun c => (syllableParts? c).getD (apart maxDepth c)

/-! ## Order -/

/-- Put a character in front of others, behind the marks of lower classes. -/
def putMark (c : Char) : Text → Text
  | [] => [c]
  | d :: rest =>
    if 0 < combiningClass d ∧ combiningClass d < combiningClass c then d :: putMark c rest
    else c :: d :: rest

/-- A text with its marks in order. -/
def ordered (s : Text) : Text := s.foldr putMark []

/-! ## Putting together -/

/-- The character that two characters make. -/
def compose? (a b : Char) : Option Char :=
  match syllable? a b with
  | some c => some c
  | none => go composites.first composites.runs
where
  /-- The code point of the first run for the pair, where the runs start at a code point. -/
  go (n : Nat) : List Run → Option Char
    | [] => none
    | run :: rest =>
      if run.numbers = [a.toNat, b.toNat] then some (Char.ofNat n) else go (n + run.length) rest

/-- Put together what can be put together with the character `base`, behind which the marks `between`
stand. A mark is out of reach behind one of the same class. -/
def composeFrom (base : Char) (between : Text) : Text → Text
  | [] => base :: between
  | c :: rest =>
    let blocked := between.getLast?.any fun d => combiningClass c ≤ combiningClass d
    match if blocked then none else compose? base c with
    | some whole => composeFrom whole between rest
    | none =>
      if combiningClass c = 0 then base :: between ++ composeFrom c [] rest
      else composeFrom base (between ++ [c]) rest

/-- The composed form of a text. Nothing is to be done for characters below the first mark. -/
def composed (s : Text) : Text :=
  if s.all fun c => c.toNat < 0x300 then s
  else
    match ordered (decomposed s) with
    | [] => []
    | c :: rest => composeFrom c [] rest

end ScriptRunner.Text
