import Mathlib
import ScriptRunner.Proofs.EncodedTexts
import ScriptRunner.Proofs.Occurrences
import ScriptRunner.Proofs.Specificity

/-!
# Keeping a library quiet

To the directives of a setting (`Filter.readAll`) one is added that keeps a library quiet
(`quiet`), unless the name of the library occurs anywhere in the setting (`build_eq_ok_iff`). Where
it does not occur, the target of no directive begins with it (`mark_infix_of_target`), so that the
directive that is added decides for all entries of the library, and for no others.

So the entries of the library are those up to the level `warn`, whether or not the directives of
the setting enable these; and where the name occurs in the setting, even in another name, nothing
is added at all (`build_quiets`).
-/

namespace ScriptRunner.Log

open Text

variable {c : Char} {s t mark setting : Text} {d : Directive} {ds : List Directive} {entry : Entry}
  {filter : Filter}

/-! ## Pieces of a setting -/

/-- The first piece of a text is a beginning of it, and the others stand in it. -/
lemma exists_splitOnChar_eq (c : Char) (s : Text) :
    ∃ first rest, splitOnChar c s = first :: rest ∧ first <+: s ∧ ∀ piece ∈ rest, piece <:+: s := by
  induction s with
  | nil => exact ⟨[], [], rfl, List.nil_prefix, by simp⟩
  | cons d s ih =>
    obtain ⟨first, rest, hsplit, hfirst, hrest⟩ := ih
    rw [splitOnChar]
    split
    · refine ⟨[], splitOnChar c s, rfl, List.nil_prefix, fun piece hpiece => ?_⟩
      rw [hsplit] at hpiece
      rcases List.mem_cons.mp hpiece with rfl | hpiece
      · exact hfirst.isInfix.trans (List.suffix_cons d s).isInfix
      · exact (hrest piece hpiece).trans (List.suffix_cons d s).isInfix
    · rw [hsplit]
      exact ⟨d :: first, rest, rfl, List.cons_prefix_cons.mpr ⟨rfl, hfirst⟩, fun piece hpiece =>
        (hrest piece hpiece).trans (List.suffix_cons d s).isInfix⟩

/-- A piece of a text stands in it. -/
lemma infix_of_mem_splitOnChar (h : t ∈ splitOnChar c s) : t <:+: s := by
  obtain ⟨first, rest, hsplit, hfirst, hrest⟩ := exists_splitOnChar_eq c s
  rw [hsplit] at h
  rcases List.mem_cons.mp h with rfl | h
  · exact hfirst.isInfix
  · exact hrest t h

/-- Two texts with the character between them have the pieces of the one and of the other. -/
lemma splitOnChar_append_cons (c : Char) (s t : Text) :
    splitOnChar c (s ++ c :: t) = splitOnChar c s ++ splitOnChar c t := by
  induction s with
  | nil =>
    change splitOnChar c (c :: t) = [] :: splitOnChar c t
    rw [splitOnChar, if_pos rfl]
  | cons d s ih =>
    obtain ⟨first, rest, hsplit, -, -⟩ := exists_splitOnChar_eq c s
    rw [List.cons_append, splitOnChar, splitOnChar, ih, hsplit]
    split <;> rfl

namespace Filter

/-- The directives of a text with commas between them. Empty ones are left out. -/
def readAll (s : Text) : Except DirectiveError (List Directive) :=
  ((splitOnChar ',' s).filter (· ≠ [])).mapM Directive.read

/-- A text is read as the filter of its directives. -/
lemma read_eq (s : Text) : read s = (readAll s).map ofDirectives := by
  unfold read readAll
  cases ((splitOnChar ',' s).filter (· ≠ [])).mapM Directive.read <;> rfl

/-- The directives in front of a comma are read before those behind it. -/
lemma readAll_append_comma (s t : Text) :
    readAll (s ++ ',' :: t) =
      (readAll s).bind fun ds => (readAll t).bind fun ds' => .ok (ds ++ ds') := by
  rw [readAll, splitOnChar_append_cons, List.filter_append, List.mapM_append]
  rfl

end Filter

/-- What is made from a result and succeeds is made from a success. -/
lemma exists_of_bind_eq_ok {α β ε : Type} {x : Except ε α} {f : α → Except ε β} {b : β}
    (h : x >>= f = .ok b) : ∃ a, x = .ok a ∧ f a = .ok b := by
  cases x with
  | error cause => cases h
  | ok a => exact ⟨a, rfl, h⟩

/-- Each of the results for a list is that of one of its elements. -/
lemma exists_of_mem_mapM {α β ε : Type} {f : α → Except ε β} {as : List α} {bs : List β} {b : β}
    (h : as.mapM f = .ok bs) (hb : b ∈ bs) : ∃ a ∈ as, f a = .ok b := by
  induction as generalizing bs with
  | nil =>
    cases h
    cases hb
  | cons a as ih =>
    rw [List.mapM_cons] at h
    obtain ⟨first, hfirst, h⟩ := exists_of_bind_eq_ok h
    obtain ⟨rest, hrest, h⟩ := exists_of_bind_eq_ok h
    obtain rfl : first :: rest = bs := Except.ok.inj h
    rcases List.mem_cons.mp hb with rfl | hb
    · exact ⟨a, List.mem_cons_self, hfirst⟩
    · obtain ⟨a', ha', hread⟩ := ih hrest hb
      exact ⟨a', List.mem_cons_of_mem a ha', hread⟩

/-! ## Targets -/

namespace Directive

variable {whole : Bytes} {draft next : Draft}

/-- The target of a directive is a part of a text. -/
def TakesTarget (whole : Bytes) (d : Directive) : Prop :=
  ∀ t, d.target = some t → ∃ start stop, slice whole start stop = .ok t

/-- A directive with the target of another one takes it from the same text. -/
lemma TakesTarget.congr {e : Directive} (h : TakesTarget whole d) (htarget : e.target = d.target) :
    TakesTarget whole e := fun t ht => h t (htarget ▸ ht)

/-- A step leaves the target as it is or takes it from the text. -/
lemma TakesTarget.step {i : ℕ} (h : TakesTarget whole draft.directive)
    (hstep : step whole draft i c = .ok next) : TakesTarget whole next.directive := by
  have hkept : ∀ {made : Draft}, (Except.ok made : Except DirectiveError Draft) = .ok next →
      made.directive.target = draft.directive.target → TakesTarget whole next.directive := by
    rintro made ⟨⟩ htarget
    exact h.congr htarget
  obtain ⟨d, part⟩ := draft
  cases part with
  | start =>
    simp only [Directive.step] at hstep
    split at hstep
    · exact hkept hstep rfl
    split at hstep
    · exact hkept hstep rfl
    · cases hstep
  | levelOrTarget start =>
    have htaken : ∀ {made : Draft} {name : Text}, slice whole start i = .ok name →
        (Except.ok made : Except DirectiveError Draft) = .ok next →
        made.directive.target = some name → TakesTarget whole next.directive := by
      rintro made name hslice ⟨⟩ htarget t ht
      obtain rfl := Option.some.inj (htarget.symm.trans ht)
      exact ⟨start, i, hslice⟩
    simp only [Directive.step] at hstep
    split at hstep
    · obtain ⟨name, hslice, hstep⟩ := exists_of_bind_eq_ok hstep
      exact htaken hslice hstep rfl
    split at hstep
    · obtain ⟨name, hslice, hstep⟩ := exists_of_bind_eq_ok hstep
      exact htaken hslice hstep rfl
    · exact hkept hstep rfl
  | span start =>
    simp only [Directive.step] at hstep
    split at hstep
    · obtain ⟨name, -, hstep⟩ := exists_of_bind_eq_ok hstep
      exact hkept hstep rfl
    split at hstep
    · obtain ⟨name, -, hstep⟩ := exists_of_bind_eq_ok hstep
      exact hkept hstep rfl
    · exact hkept hstep rfl
  | field start =>
    simp only [Directive.step] at hstep
    split at hstep
    · obtain ⟨name, -, hstep⟩ := exists_of_bind_eq_ok hstep
      split at hstep
      · cases hstep
      · obtain ⟨field, -, hstep⟩ := exists_of_bind_eq_ok hstep
        exact hkept hstep rfl
    · exact hkept hstep rfl
  | afterFields =>
    simp only [Directive.step] at hstep
    split at hstep
    · exact hkept hstep rfl
    · cases hstep
  | afterSpan =>
    simp only [Directive.step] at hstep
    split at hstep
    · exact hkept hstep rfl
    · cases hstep
  | level start => exact hkept hstep rfl

/-- All steps together leave the target as it is or take it from the text. -/
lemma TakesTarget.steps {i : ℕ} (h : TakesTarget whole draft.directive)
    (hsteps : steps whole draft i s = .ok next) : TakesTarget whole next.directive := by
  induction s generalizing draft i with
  | nil =>
    obtain rfl := Except.ok.inj hsteps
    exact h
  | cons c s ih =>
    obtain ⟨between, hstep, hsteps⟩ := exists_of_bind_eq_ok hsteps
    exact ih (h.step hstep) hsteps

/-- At the end of the text the target is left as it is or taken from the text. -/
lemma TakesTarget.conclude (h : TakesTarget whole draft.directive)
    (hconclude : conclude whole draft = .ok d) : TakesTarget whole d := by
  have hkept : ∀ {made : Directive}, (Except.ok made : Except DirectiveError Directive) = .ok d →
      made.target = draft.directive.target → TakesTarget whole d := by
    rintro made ⟨⟩ htarget
    exact h.congr htarget
  obtain ⟨before, part⟩ := draft
  cases part with
  | start => cases hconclude
  | levelOrTarget start =>
    obtain ⟨name, hslice, hconclude⟩ := exists_of_bind_eq_ok hconclude
    split at hconclude
    · exact hkept hconclude rfl
    · obtain rfl := Except.ok.inj hconclude
      rintro t ⟨⟩
      exact ⟨start, whole.length, hslice⟩
  | span start => cases hconclude
  | field start => cases hconclude
  | afterFields => cases hconclude
  | afterSpan => exact hkept hconclude rfl
  | level start =>
    obtain ⟨name, -, hconclude⟩ := exists_of_bind_eq_ok hconclude
    obtain ⟨threshold, -, hconclude⟩ := exists_of_bind_eq_ok hconclude
    exact hkept hconclude rfl

/-- The target of a directive is a part of the text that it is read from. -/
lemma takesTarget_read (h : read s = .ok d) : TakesTarget (encode s) d := by
  obtain ⟨draft, hsteps, hconclude⟩ := exists_of_bind_eq_ok h
  have hnone : TakesTarget (encode s) ({} : Draft).directive := by
    rintro t ⟨⟩
  exact (hnone.steps hsteps).conclude hconclude

/-- A mark of ASCII that a target begins with stands in the text that the directive is read
from. -/
lemma mark_infix_of_read (hmark : ∀ c ∈ mark, 0 < c.toNat ∧ c.toNat < 0x80) (h : read s = .ok d)
    (ht : d.target = some t) (hbegins : mark <+: t) : mark <:+: s := by
  obtain ⟨start, stop, hslice⟩ := takesTarget_read h t ht
  have hdecoded : decode? (((encode s).take stop).drop start) = some t := by
    unfold slice at hslice
    split at hslice
    · next hsome =>
      obtain rfl := Except.ok.inj hslice
      exact hsome
    · cases hslice
  have hbytes : encode mark <+: ((encode s).take stop).drop start :=
    encode_prefix_of_decode? hmark hdecoded hbegins
  have hpart : ((encode s).take stop).drop start <:+: encode s :=
    (List.drop_suffix _ _).isInfix.trans (List.take_prefix _ _).isInfix
  exact infix_of_infix_encode (fun c hc => (hmark c hc).2) (hbytes.isInfix.trans hpart)

end Directive

/-- A mark of ASCII that a target begins with stands in the text that the directives are read
from. -/
lemma Filter.mark_infix_of_readAll (hmark : ∀ c ∈ mark, 0 < c.toNat ∧ c.toNat < 0x80)
    (h : readAll s = .ok ds) (hd : d ∈ ds) (ht : d.target = some t) (hbegins : mark <+: t) :
    mark <:+: s := by
  obtain ⟨piece, hpiece, hread⟩ := exists_of_mem_mapM h hd
  have hmem : piece ∈ splitOnChar ',' s := (List.mem_filter.mp hpiece).1
  exact (Directive.mark_infix_of_read hmark hread ht hbegins).trans (infix_of_mem_splitOnChar hmem)

/-! ## The directive that is added -/

/-- The directive that keeps the library quiet. -/
def quiet : Directive := { target := some quietTarget, threshold := .upTo .warn }

/-- The name of the library is one of ASCII. -/
lemma isAscii_quietTarget : ∀ c ∈ quietTarget, 0 < c.toNat ∧ c.toNat < 0x80 := by
  have hall : (quietTarget.all fun c => decide (0 < c.toNat ∧ c.toNat < 0x80)) = true := by decide
  exact fun c hc => of_decide_eq_true (List.all_eq_true.mp hall c hc)

/-- The directive is read from its written form. -/
lemma Filter.readAll_quietDirective : readAll quietDirective = .ok [quiet] := by decide +kernel

/-- The directive that is added applies to the entries of the library. -/
lemma quiet_applies_iff : quiet.applies entry = true ↔ quietTarget <+: entry.target := by
  rw [Directive.applies, quiet]
  simp

/-- The directive that is added is decided for an entry alone, among the first of these. -/
lemma statics_append_quiet (ds : List Directive) :
    Directive.statics (ds ++ [quiet]) =
      ds.filter (!·.hasScope) ++ quiet :: (ds.filter (·.hasScope)).filterMap Directive.static? := by
  have hscope : quiet.hasScope = false := rfl
  simp [Directive.statics, List.filter_append, hscope]

/-- For an entry of the library the directive that is added is more specific than all that apply and
have no target beginning with the name of the library. -/
lemma key_lt_key_quiet (happlies : d.applies entry = true) (hentry : quietTarget <+: entry.target)
    (htarget : ∀ t, d.target = some t → ¬ quietTarget <+: t) : d.key < quiet.key := by
  refine Prod.Lex.toLex_lt_toLex.mpr (.inl ?_)
  cases ht : d.target with
  | none => exact WithBot.bot_lt_coe _
  | some t =>
    have hbegins : t <+: entry.target := by
      rw [Directive.applies, ht, Bool.and_eq_true] at happlies
      exact List.isPrefixOf_iff_prefix.mp happlies.1
    obtain ⟨rest, hrest⟩ : t <+: quietTarget :=
      (List.prefix_or_prefix_of_prefix hbegins hentry).resolve_right (htarget t ht)
    have hshorter : (encode t).length < (encode quietTarget).length := by
      cases rest with
      | nil =>
        rw [List.append_nil] at hrest
        exact absurd (hrest ▸ List.prefix_refl _) (htarget t ht)
      | cons c rest =>
        have hpos : 0 < c.utf8Size := c.utf8Size_pos
        rw [← hrest, encode_append, List.length_append, length_encode_cons]
        omega
    exact WithBot.coe_lt_coe.mpr hshorter

namespace Filter

/-- Entries that are not of the library are enabled as without the directive that is added. -/
lemma enables_append_quiet_of_not_prefix (ds : List Directive)
    (hentry : ¬ quietTarget <+: entry.target) :
    (ofDirectives (ds ++ [quiet])).enables entry = (ofDirectives ds).enables entry := by
  have hnot : ¬ quiet.applies entry = true := fun h => hentry (quiet_applies_iff.mp h)
  rw [enables_ofDirectives, enables_ofDirectives, statics_append_quiet,
    Directive.foldl_prefer_of_not_applies hnot]
  rfl

/-- Entries of the library are enabled up to the level of the directive that is added, if no other
target begins with the name of the library. -/
lemma enables_append_quiet_of_prefix (hentry : quietTarget <+: entry.target)
    (hds : ∀ d ∈ ds, ∀ t, d.target = some t → ¬ quietTarget <+: t) :
    (ofDirectives (ds ++ [quiet])).enables entry = quiet.threshold.admits entry.level := by
  have hbelow : ∀ d ∈ Directive.statics ds, d.applies entry = true → d.key < quiet.key :=
    fun d hd happlies =>
      key_lt_key_quiet happlies hentry (hds d (Directive.of_mem_statics hd).2)
  rw [enables_ofDirectives, statics_append_quiet,
    Directive.foldl_prefer_of_applies (quiet_applies_iff.mpr hentry)
      (fun d hd => hbelow d (List.mem_append_left _ hd))
      (fun d hd => hbelow d (List.mem_append_right _ hd))]
  rfl

/-- The directives that are in force are those of the setting, and the one that is added if the name
of the library does not occur in the setting. -/
lemma readAll_directives (setting : Text) :
    readAll (directives setting) =
      (readAll (effective setting)).map fun ds =>
        if contains quietTarget (effective setting) then ds else ds ++ [quiet] := by
  unfold directives
  by_cases hmentions : contains quietTarget (effective setting) = true
  · simp only [if_pos hmentions]
    cases readAll (effective setting) <;> rfl
  · have hcomma : effective setting ++ [','] ++ quietDirective =
        effective setting ++ ',' :: quietDirective := by
      rw [List.append_assoc]
      rfl
    simp only [if_neg hmentions]
    rw [hcomma, readAll_append_comma, readAll_quietDirective]
    cases readAll (effective setting) <;> rfl

/-- A setting is accepted if its directives can be read. -/
lemma exists_of_build_eq_ok (h : build setting = .ok filter) :
    ∃ ds, readAll (effective setting) = .ok ds ∧
      filter = ofDirectives
        (if contains quietTarget (effective setting) then ds else ds ++ [quiet]) := by
  rw [build, read_eq, readAll_directives] at h
  cases hread : readAll (effective setting) with
  | error cause =>
    rw [hread] at h
    cases h
  | ok ds =>
    rw [hread] at h
    exact ⟨ds, rfl, (Except.ok.inj h).symm⟩

/-- A filter only quiets: it enables an entry if the directives of the setting do, and the entry is
an error or a warning. -/
def OnlyQuiets (filter own : Filter) (entry : Entry) : Prop :=
  filter.enables entry = true ↔
    own.enables entry = true ∧ (entry.level = .error ∨ entry.level = .warn)

instance (filter own : Filter) (entry : Entry) : Decidable (OnlyQuiets filter own entry) :=
  inferInstanceAs (Decidable (_ ↔ _))

/-- What the filter of a setting enables, compared with that of the directives of the setting. -/
structure Quiets (setting : Text) (filter own : Filter) : Prop where
  /-- Entries that are not of the library are enabled as the setting says. -/
  others : ∀ entry : Entry, ¬ quietTarget <+: entry.target →
    (filter.enables entry = true ↔ own.enables entry = true)
  /-- Where the setting mentions the library, its entries are enabled as the setting says as well.
  So the filter only quiets them if the setting does. -/
  mentioned : contains quietTarget (effective setting) = true → filter = own ∧
    ∀ entry, OnlyQuiets filter own entry ↔
      (own.enables entry = true → entry.level = .error ∨ entry.level = .warn)
  /-- Where the setting does not mention the library, errors and warnings of the library are enabled
  whatever the setting says. So the filter only quiets them if the setting enables these. -/
  unmentioned : contains quietTarget (effective setting) = false →
    ∀ entry : Entry, quietTarget <+: entry.target →
      (filter.enables entry = true ↔ entry.level = .error ∨ entry.level = .warn) ∧
      (OnlyQuiets filter own entry ↔
        (entry.level = .error ∨ entry.level = .warn → own.enables entry = true))

/-- The level of the directive that is added admits errors and warnings. -/
lemma quiet_admits_iff (level : Level) :
    quiet.threshold.admits level = true ↔ level = .error ∨ level = .warn := by
  cases level <;> decide

/-- **The filter of a setting quiets a library** by a directive that is added to those of the
setting if these do not mention the library. Entries of others are enabled as the setting says. The
entries of the library are enabled as the setting says where it mentions the library, if only in
another name, and otherwise if they are errors or warnings, even such as the setting does not
enable. -/
theorem build_quiets (h : build setting = .ok filter) :
    ∃ own, read (effective setting) = .ok own ∧ Quiets setting filter own := by
  obtain ⟨ds, hread, hfilter⟩ := exists_of_build_eq_ok h
  refine ⟨ofDirectives ds, by rw [read_eq, hread]; rfl, ?_, ?_, ?_⟩
  · intro entry hentry
    split at hfilter
    · rw [hfilter]
    · rw [hfilter, enables_append_quiet_of_not_prefix ds hentry]
  · intro hmentions
    rw [if_pos hmentions] at hfilter
    refine ⟨hfilter, fun entry => ?_⟩
    rw [OnlyQuiets, hfilter, iff_self_and]
  · intro hmentions entry hentry
    have hds : ∀ d ∈ ds, ∀ t, d.target = some t → ¬ quietTarget <+: t := by
      intro d hd t ht hbegins
      have hoccurs : quietTarget <:+: effective setting :=
        mark_infix_of_readAll isAscii_quietTarget hread hd ht hbegins
      rw [contains_eq_true_iff.mpr hoccurs] at hmentions
      cases hmentions
    rw [hmentions, if_neg Bool.false_ne_true] at hfilter
    have henables : filter.enables entry = true ↔ entry.level = .error ∨ entry.level = .warn := by
      rw [hfilter, enables_append_quiet_of_prefix hentry hds, quiet_admits_iff]
    refine ⟨henables, ?_⟩
    rw [OnlyQuiets, henables, iff_and_self]

end Filter

/-- What a database library tells of a statement. -/
def queryEntry (level : Level) : Entry where
  level := level
  target := "sqlx::query"
  message := "query"
  fields := []

/-- With the setting `info` an information of the library is not enabled, but a warning is. -/
theorem build_quiets_info :
    let filter := Filter.ofDirectives [{ threshold := .upTo .info }, quiet]
    Filter.build "info" = .ok filter ∧
      (∃ own, Filter.read (Filter.effective "info") = .ok own ∧
        Filter.Quiets "info" filter own) ∧
      filter.enables (queryEntry .info) = false ∧ filter.enables (queryEntry .warn) = true :=
  ⟨by decide +kernel, Filter.build_quiets (by decide +kernel), by decide +kernel,
    by decide +kernel⟩

/-- A name with the letters of the library in it keeps the directive from being added, so that an
information of the library is enabled. And where only errors are wanted, the directive that is added
enables warnings of the library. Neither setting has a directive for the library. -/
theorem build_not_onlyQuiets :
    let mention : List Directive :=
      [{ target := some "mysqlx".toList, threshold := .upTo .debug }, { threshold := .upTo .info }]
    let errors : List Directive := [{ threshold := .upTo .error }]
    (∀ d ∈ mention ++ errors, ∀ t ∈ d.target,
      t ≠ quietTarget ∧ ¬ quietTarget ++ "::".toList <+: t) ∧
    (Filter.readAll (Filter.effective "mysqlx=debug,info") = .ok mention ∧
      Filter.build "mysqlx=debug,info" = .ok (Filter.ofDirectives mention) ∧
      ¬ (Filter.ofDirectives mention).OnlyQuiets (Filter.ofDirectives mention)
        (queryEntry .info)) ∧
    (Filter.readAll (Filter.effective "error") = .ok errors ∧
      Filter.build "error" = .ok (Filter.ofDirectives (errors ++ [quiet])) ∧
      ¬ (Filter.ofDirectives (errors ++ [quiet])).OnlyQuiets (Filter.ofDirectives errors)
        (queryEntry .warn)) := by
  decide +kernel

end ScriptRunner.Log
