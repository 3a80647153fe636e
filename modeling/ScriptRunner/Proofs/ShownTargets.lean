import Mathlib
import ScriptRunner.Proofs.EncodedTexts
import ScriptRunner.Proofs.Stages
import ScriptRunner.Run.Database
import ScriptRunner.Text.Alphanumeric

/-!
# Targets that are shown

The target of a run is shown to the operator before a session is asked for. For a database it is the
URL with its password hidden. A URL of the form `withUser` has its password between the first colon
behind the user name and the last at sign of the authority, and what is read from the rest of the
text does not depend on it (`exists_read_withUser`). So what is shown does not depend on the
password either, provided that the text is a URL. A text that is none is shown as it is, with all
that stands in it.
-/

namespace ScriptRunner

open Text

namespace Url

/-! ## Words -/

/-- A text of letters and numbers. -/
def IsWord (s : Text) : Prop := ∀ c ∈ s, isAlphanumeric c = true

instance (s : Text) : Decidable (IsWord s) :=
  decidable_of_iff (s.all isAlphanumeric = true) List.all_eq_true

/-- The first letters and numbers are the digits. -/
lemma le_toNat_of_isAlphanumeric {c : Char} (h : isAlphanumeric c = true) : 48 ≤ c.toNat := by
  have table : ∀ n : Fin 48, inRuns n alphanumericRuns = false := by decide +kernel
  by_contra hlt
  have hfalse := table ⟨c.toNat, by omega⟩
  rw [isAlphanumeric, hfalse] at h
  cases h

/-- A letter or number is none of the other characters. -/
lemma ne_of_isAlphanumeric {c d : Char} (h : isAlphanumeric c = true)
    (hd : isAlphanumeric d = false) : c ≠ d := by
  rintro rfl
  rw [h] at hd
  cases hd

/-- There is no colon in a word. -/
lemma colon_notMem {s : Text} (h : IsWord s) : ':' ∉ s := by
  intro hmem
  have hcolon : isAlphanumeric ':' = false := by decide +kernel
  exact ne_of_isAlphanumeric (h ':' hmem) hcolon rfl

/-- A character that does not end an authority, and is no edge of a text either. -/
structure IsPlain (c : Char) : Prop where
  edge : ¬ c ≤ ' '
  authority : endsAuthority false c = false

/-- A letter or number is plain. -/
lemma isPlain_of_isAlphanumeric {c : Char} (h : isAlphanumeric c = true) : IsPlain c where
  edge := by
    intro hle
    have hnat : c.toNat ≤ 32 := hle
    have hlow := le_toNat_of_isAlphanumeric h
    omega
  authority := by
    have hslash := ne_of_isAlphanumeric (d := '/') h (by decide +kernel)
    have hquestion := ne_of_isAlphanumeric (d := '?') h (by decide +kernel)
    have hnumber := ne_of_isAlphanumeric (d := '#') h (by decide +kernel)
    simp [endsAuthority, hslash, hquestion, hnumber]

/-! ## Reading up to the user name -/

/-- What counts of a text that stands behind something else. -/
def significantEnd (s : Text) : Text :=
  (s.reverse.dropWhile fun c => decide (c ≤ ' ')).reverse.filter fun c =>
    c != '\t' && c != '\n' && c != '\r'

/-- Plain characters at the beginning of a text all count. -/
lemma significant_append {front : Text} (rest : Text) (hne : front ≠ [])
    (hfront : ∀ c ∈ front, ¬ c ≤ ' ') :
    significant (front ++ rest) = front ++ significantEnd rest := by
  have hedge : ∀ c ∈ front, ¬ decide (c ≤ ' ') = true := by simpa using hfront
  have hstart : (front ++ rest).dropWhile (fun c => decide (c ≤ ' ')) = front ++ rest := by
    obtain ⟨c, tail, rfl⟩ := List.exists_cons_of_ne_nil hne
    exact List.dropWhile_cons_of_neg (hedge c List.mem_cons_self)
  have hback : front.reverse.dropWhile (fun c => decide (c ≤ ' ')) = front.reverse := by
    rw [List.dropWhile_eq_self_iff]
    intro hlength
    exact hedge _ (List.mem_reverse.1 (List.getElem_mem hlength))
  have hend : (front ++ rest).reverse.dropWhile (fun c => decide (c ≤ ' ')) =
      rest.reverse.dropWhile (fun c => decide (c ≤ ' ')) ++ front.reverse := by
    rw [List.reverse_append, List.dropWhile_append, hback]
    split
    · next hempty => rw [List.isEmpty_iff.1 hempty, List.nil_append]
    · rfl
  have hkeep : front.filter (fun c => c != '\t' && c != '\n' && c != '\r') = front := by
    rw [List.filter_eq_self]
    intro c hc
    have hblank : ∀ d : Char, d ≤ ' ' → c ≠ d := by
      rintro d hd rfl
      exact hfront c hc hd
    simp [hblank '\t' (by decide), hblank '\n' (by decide), hblank '\r' (by decide)]
  rw [significant, hstart, hend, List.reverse_append, List.reverse_reverse, List.filter_append,
    hkeep]
  rfl

/-- Where an authority has text in front of an at sign, what is read as the host does not depend on
this text, nor does what follows the text in front of the last at sign. -/
lemma exists_cutUser (rest : Text) :
    ∃ more behind, ∀ before, (∀ c ∈ before, endsAuthority false c = false) →
      cutUser false (before ++ '@' :: rest) = (some (before ++ more), behind) := by
  set inside := rest.takeWhile (!endsAuthority false ·) with hinside
  set host := (inside.reverse.takeWhile (· != '@')).reverse with hhost
  refine ⟨('@' :: inside).take (inside.length - host.length),
    host ++ rest.dropWhile (!endsAuthority false ·), fun before hbefore => ?_⟩
  have hall : ∀ c ∈ before, (!endsAuthority false c) = true := by simpa using hbefore
  have hcut : cutBefore (endsAuthority false) (before ++ '@' :: rest) =
      (before ++ '@' :: inside, rest.dropWhile (!endsAuthority false ·)) := by
    rw [cutBefore, List.takeWhile_append_of_pos hall, List.dropWhile_append_of_pos hall]
    rfl
  -- The way back from the end of the authority stops at the first at sign, if at no later one.
  have hback : (before ++ '@' :: inside).reverse.takeWhile (· != '@') =
      inside.reverse.takeWhile (· != '@') := by
    rw [List.reverse_append, List.reverse_cons, List.append_assoc, List.takeWhile_append]
    split
    · next hwhole =>
      have hself : inside.reverse.takeWhile (· != '@') = inside.reverse :=
        (List.takeWhile_prefix _).eq_of_length hwhole
      rw [hself]
      simp
    · rfl
  have hshort : host.length ≤ inside.length := by
    have hle := (List.takeWhile_prefix (· != '@') (l := inside.reverse)).length_le
    rwa [hhost, List.length_reverse, ← inside.length_reverse]
  have hlength : (before ++ '@' :: inside).length - (host.length + 1) =
      before.length + (inside.length - host.length) := by
    rw [List.length_append, List.length_cons]
    omega
  rw [cutUser, hcut]
  dsimp only
  rw [if_pos (by simp), hback, ← hhost, hlength, List.take_length_add_append]

/-- Nothing is lost when a text is encoded. -/
lemma percentEncode_ne_nil (marks : List Char) {s : Text} (h : s ≠ []) :
    percentEncode marks s ≠ [] := by
  obtain ⟨c, rest, rfl⟩ := List.exists_cons_of_ne_nil h
  have hfirst : (if needsEncoding marks c then
      (String.utf8EncodeChar c).flatMap encodedByte else [c]) ≠ [] := by
    split
    · obtain ⟨byte, bytes, hcons⟩ := List.exists_cons_of_ne_nil (utf8EncodeChar_ne_nil c)
      rw [hcons]
      simp [encodedByte]
    · simp
  rw [percentEncode, List.flatMap_cons]
  simp [hfirst]

/-- The user name ends at the first colon. -/
lemma readUser_append {name password : Text} (hname : ':' ∉ name) (hpassword : password ≠ []) :
    readUser (name ++ ':' :: password) =
      (percentEncode userMarks name, some (percentEncode userMarks password)) := by
  have hall : ∀ c ∈ name, (!(c == ':')) = true := by
    intro c hc
    rw [Bool.not_eq_true', beq_eq_false_iff_ne]
    rintro rfl
    exact hname hc
  have hcut : cutBefore (· == ':') (name ++ ':' :: password) = (name, ':' :: password) := by
    rw [cutBefore, List.takeWhile_append_of_pos hall, List.dropWhile_append_of_pos hall]
    simp
  rw [readUser, hcut]
  exact congrArg (Prod.mk _) (if_neg (percentEncode_ne_nil userMarks hpassword))

/-! ## Reading behind the user name -/

/-- The URL with another password. -/
def setPassword (password : Text) (url : Url) : Url :=
  { url with authority := url.authority.map fun a => { a with password := some password } }

/-- Read what follows the user name and the password, for a scheme that is not special. -/
def readBehindUser (scheme username : Text) (password : Option Text) (s : Text) :
    Except UrlError Url :=
  let cut := cutHost false false s
  match opaqueHost cut.1 with
  | .error error => .error error
  | .ok host =>
    if host = [] ∧ cut.2.head? = some ':' then .error .emptyHost
    else
      match readPort scheme cut.2 with
      | .error error => .error error
      | .ok (port, rest) =>
        let authority : Authority :=
          { username := username, password := password, host := host, port := port }
        if host = [] ∧ authority.hasUser then .error .emptyHost
        else .ok (readPathAndRest { scheme := scheme, authority := some authority } rest)

/-- An authority with a user name is read behind it. -/
lemma readAuthority_of_cutUser {scheme s user behind : Text}
    (hspecial : isSpecialScheme scheme = false) (hne : user ≠ [])
    (h : cutUser false s = (some user, behind)) :
    readAuthority scheme s =
      readBehindUser scheme (readUser user).1 (readUser user).2 behind := by
  have hnot : ¬ (some user = some [] ∧
      (behind.head?.map (endsAuthority false)).getD false = true) := by
    simp [hne]
  rw [readAuthority, readBehindUser]
  dsimp only
  rw [hspecial, h]
  dsimp only
  rw [if_neg hnot, if_neg (by simp), Option.getD_some, if_neg Bool.false_ne_true]
  cases opaqueHost (cutHost false false behind).1 with
  | error error => rfl
  | ok host =>
    change (if host = [] ∧ (cutHost false false behind).2.head? = some ':' then _ else _) =
      (if host = [] ∧ (cutHost false false behind).2.head? = some ':' then _ else _)
    split
    · rfl
    · cases readPort scheme (cutHost false false behind).2 with
      | error error => rfl
      | ok parts => rfl

/-- Only the password of a URL that is read depends on the password. -/
lemma readBehindUser_eq_map (scheme username s password other : Text) :
    readBehindUser scheme username (some password) s =
      (readBehindUser scheme username (some other) s).map (setPassword password) := by
  have huser : ∀ (host : Text) (port : Option ℕ) (p : Text),
      Authority.hasUser ⟨username, some p, host, port⟩ = true := fun _ _ _ => Bool.or_true _
  unfold readBehindUser
  dsimp only
  cases opaqueHost (cutHost false false s).1 with
  | error error => rfl
  | ok host =>
    dsimp only
    split
    · rfl
    · cases readPort scheme (cutHost false false s).2 with
      | error error => rfl
      | ok parts =>
        dsimp only
        rw [huser, huser]
        split <;> rfl

/-- A URL with a password has a host. -/
lemma exists_host_of_readBehindUser {scheme username s password : Text} {url : Url}
    (h : readBehindUser scheme username (some password) s = .ok url) :
    ∃ a, url.authority = some a ∧ a.host ≠ [] := by
  have huser : ∀ (host : Text) (port : Option ℕ),
      Authority.hasUser ⟨username, some password, host, port⟩ = true := fun _ _ => Bool.or_true _
  unfold readBehindUser at h
  dsimp only at h
  cases hhost : opaqueHost (cutHost false false s).1 with
  | error error => rw [hhost] at h; cases h
  | ok host =>
    rw [hhost] at h
    dsimp only at h
    split at h
    · cases h
    · cases hport : readPort scheme (cutHost false false s).2 with
      | error error => rw [hport] at h; cases h
      | ok parts =>
        rw [hport] at h
        dsimp only at h
        rw [huser] at h
        split at h
        · cases h
        · next hnot =>
          obtain rfl := Except.ok.inj h
          exact ⟨_, rfl, fun hempty => hnot ⟨hempty, rfl⟩⟩

/-! ## URLs with a user name and a password -/

/-- The URL of a MySQL database with a user name, a password, and what follows the at sign. -/
def withUser (user password rest : Text) : Text :=
  "mysql://".toList ++ user ++ [':'] ++ password ++ ['@'] ++ rest

/-- The parts of a URL with a user name and a password. -/
lemma withUser_eq (user password rest : Text) :
    withUser user password rest = "mysql://".toList ++ user ++ [':'] ++ password ++ ['@'] ++ rest :=
  rfl

/-- The scheme of a URL of a MySQL database. -/
lemma cutScheme?_mysql (rest : Text) :
    cutScheme? ("mysql://".toList ++ rest) = some ("mysql".toList, '/' :: '/' :: rest) := by
  rfl

/-- What is read of a URL with a user name and a password is its authority. -/
lemma read_withUser {user password : Text} (huser : IsWord user) (hpassword : IsWord password)
    (rest : Text) :
    read (withUser user password rest) =
      readAuthority "mysql".toList (user ++ ':' :: password ++ '@' :: significantEnd rest) := by
  have hscheme : ∀ c ∈ "mysql://".toList, ¬ c ≤ ' ' := by simp
  have hfront : ∀ c ∈ "mysql://".toList ++ user ++ [':'] ++ password ++ ['@'], ¬ c ≤ ' ' := by
    intro c hc
    simp only [List.mem_append, List.mem_singleton] at hc
    rcases hc with (((hc | hc) | rfl) | hc) | rfl
    · exact hscheme c hc
    · exact (isPlain_of_isAlphanumeric (huser c hc)).edge
    · decide
    · exact (isPlain_of_isAlphanumeric (hpassword c hc)).edge
    · decide
  have hsignificant : significant (withUser user password rest) =
      "mysql://".toList ++ (user ++ ':' :: password ++ '@' :: significantEnd rest) := by
    rw [withUser_eq, significant_append rest (by simp) hfront]
    simp only [List.append_assoc, List.cons_append, List.nil_append]
  rw [read, hsignificant, cutScheme?_mysql]
  rfl

/-- What is read from a URL with a user name and a password depends on the password in one place
only. -/
lemma exists_read_withUser {user : Text} (huser : IsWord user) (rest : Text) :
    ∃ outcome : Except UrlError Url,
      (∀ url, outcome = .ok url → ∃ a, url.authority = some a ∧ a.host ≠ []) ∧
      ∀ password, IsWord password → password ≠ [] → ∃ encoded,
        read (withUser user password rest) = outcome.map (setPassword encoded) := by
  obtain ⟨more, behind, hcut⟩ := exists_cutUser (significantEnd rest)
  refine ⟨readBehindUser "mysql".toList (percentEncode userMarks user) (some []) behind,
    fun url hurl => exists_host_of_readBehindUser hurl, fun password hpassword hne => ?_⟩
  have hplain : ∀ c ∈ user ++ ':' :: password, endsAuthority false c = false := by
    intro c hc
    rcases List.mem_append.1 hc with hc | hc
    · exact (isPlain_of_isAlphanumeric (huser c hc)).authority
    · rcases List.mem_cons.1 hc with rfl | hc
      · decide
      · exact (isPlain_of_isAlphanumeric (hpassword c hc)).authority
  have hspecial : isSpecialScheme "mysql".toList = false := by decide +kernel
  have huserRead : readUser (user ++ ':' :: password ++ more) =
      (percentEncode userMarks user, some (percentEncode userMarks (password ++ more))) := by
    rw [List.append_assoc, List.cons_append]
    exact readUser_append (colon_notMem huser) (by simp [hne])
  refine ⟨percentEncode userMarks (password ++ more), ?_⟩
  rw [read_withUser huser hpassword, readAuthority_of_cutUser hspecial (by simp) (hcut _ hplain),
    huserRead]
  exact readBehindUser_eq_map _ _ _ _ _

/-! ## Hiding the password -/

/-- What is shown of a URL with a host does not depend on its password. -/
lemma redact_eq_of_read {s password : Text} {url : Url} {a : Authority}
    (h : read s = .ok (setPassword password url)) (ha : url.authority = some a)
    (hhost : a.host ≠ []) : redact s = (setPassword passwordMask url).toText := by
  have hmasked : (setPassword password url).authority.bind Authority.masked? =
      some { a with password := some passwordMask } := by
    rw [setPassword, ha]
    exact if_pos ⟨rfl, hhost⟩
  rw [redact, h]
  dsimp only
  rw [hmasked, setPassword, setPassword, ha]
  rfl

/-- A text that is no URL is shown as it is. -/
lemma redact_of_error {s : Text} {error : UrlError} (h : read s = .error error) : redact s = s := by
  rw [redact, h]

/-- What is shown of two URLs that differ in their passwords. -/
lemma redact_withUser_eq_iff {user password password' : Text} (huser : IsWord user)
    (hpassword : IsWord password) (hne : password ≠ []) (hpassword' : IsWord password')
    (hne' : password' ≠ []) (rest : Text) :
    ((read (withUser user password rest)).isOk = (read (withUser user password' rest)).isOk) ∧
    (redact (withUser user password rest) = redact (withUser user password' rest) ↔
      password = password' ∨ (read (withUser user password rest)).isOk = true) := by
  obtain ⟨outcome, hhost, hread⟩ := exists_read_withUser huser rest
  obtain ⟨encoded, h⟩ := hread password hpassword hne
  obtain ⟨encoded', h'⟩ := hread password' hpassword' hne'
  cases outcome with
  | error error =>
    -- Both texts come back unchanged, and they differ exactly if the passwords do.
    have herror : read (withUser user password rest) = .error error := h
    have herror' : read (withUser user password' rest) = .error error := h'
    rw [redact_of_error herror, redact_of_error herror', herror, herror']
    refine ⟨rfl, ?_⟩
    rw [withUser_eq, withUser_eq, List.append_left_inj, List.append_left_inj, List.append_right_inj]
    exact ⟨.inl, fun heq => heq.resolve_right Bool.false_ne_true⟩
  | ok url =>
    have hok : read (withUser user password rest) = .ok (setPassword encoded url) := h
    have hok' : read (withUser user password' rest) = .ok (setPassword encoded' url) := h'
    obtain ⟨a, ha, hhosted⟩ := hhost url rfl
    rw [redact_eq_of_read hok ha hhosted, redact_eq_of_read hok' ha hhosted, hok, hok']
    exact ⟨rfl, iff_of_true rfl (.inr rfl)⟩

end Url

open Url

variable {σ : Type}

/-- What the operator is told up to the demand for a session depends on the target only. -/
lemma Runner.output_located_congr {runner : Runner σ} {c c' : Connector σ}
    (h : c.target = c'.target) (root : Path) (s : RunState σ) :
    (Runner.located { runner with connector := c } root s).output =
      (Runner.located { runner with connector := c' } root s).output := by
  unfold Runner.located
  dsimp only
  rw [h]
  rfl

/-- **A password is hidden in a URL, and only there.** Whether a text with a user name and a
password is a URL does not depend on the password. If it is one, its target is shown in the same way
whatever the password is, and so is all that the operator is told before a session is asked for. If
it is none, two passwords are shown in the same way only if they are the same. What the server
answers does not matter. -/
theorem target_withUser (server : Server σ) {user password password' : Text} (huser : IsWord user)
    (hpassword : IsWord password) (hne : password ≠ []) (hpassword' : IsWord password')
    (hne' : password' ≠ []) (rest : Text) :
    ((Url.read (withUser user password rest)).isOk =
      (Url.read (withUser user password' rest)).isOk) ∧
    ((server.database (withUser user password rest)).target =
        (server.database (withUser user password' rest)).target ↔
      password = password' ∨ (Url.read (withUser user password rest)).isOk = true) ∧
    ((Url.read (withUser user password rest)).isOk = true →
      ∀ (runner : Runner σ) (root : Path) (s : RunState σ),
        (Runner.located { runner with connector := server.database (withUser user password rest) }
          root s).output =
        (Runner.located { runner with connector := server.database (withUser user password' rest) }
          root s).output) := by
  obtain ⟨hread, hredact⟩ :=
    redact_withUser_eq_iff huser hpassword hne hpassword' hne' rest
  refine ⟨hread, hredact, fun hok runner root s => ?_⟩
  exact Runner.output_located_congr (hredact.2 (.inr hok)) root s

/-- The password of a URL with a host and a port is not shown. -/
theorem target_withUser_ofUrl :
    (database (withUser "root" "secret" "db:3306/app")).target = "mysql://root:***@db:3306/app" ∧
    (database (withUser "root" "hidden" "db:3306/app")).target =
      (database (withUser "root" "secret" "db:3306/app")).target := by
  have hurl : (Url.read (withUser "root" "hidden" "db:3306/app")).isOk = true := by
    decide +kernel
  refine ⟨by decide +kernel, ?_⟩
  have huser : IsWord "root" := by decide +kernel
  have hpassword : IsWord "hidden" := by decide +kernel
  have hpassword' : IsWord "secret" := by decide +kernel
  exact (target_withUser Server.standIn huser hpassword (by decide) hpassword' (by decide)
    "db:3306/app").2.1.2 (.inr hurl)

/-- A text whose port is too large is no URL, and is shown with its password. -/
theorem target_withUser_ofInvalidPort :
    (database (withUser "root" "secret" "db:99999/app")).target =
      "mysql://root:secret@db:99999/app" ∧
    ¬ ∀ user password password' rest, IsWord user → IsWord password → password ≠ [] →
      IsWord password' → password' ≠ [] →
      (database (withUser user password rest)).target =
        (database (withUser user password' rest)).target := by
  refine ⟨by decide +kernel, fun hall => ?_⟩
  have hdiffer : (database (withUser "root" "secret" "db:99999/app")).target ≠
      (database (withUser "root" "hidden" "db:99999/app")).target := by decide +kernel
  exact hdiffer (hall "root" "secret" "hidden" "db:99999/app" (by decide +kernel)
    (by decide +kernel) (by decide) (by decide +kernel) (by decide))

end ScriptRunner
