import Mathlib
import ScriptRunner.Log.Filter

/-!
# The directive that decides

Directives that are decided for an entry alone (`Directive.IsStatic`) are ordered by a key
(`specificity_compares`): the length of the target counts first. A filter keeps them in this order,
most specific first and each key once, and asks the first one that applies to an entry. This is the
most specific one of all that apply, and the last one of these (`enables_ofDirectives`), as if the
directives were looked through in the order in which they are written (`Directive.prefer`).
-/

namespace ScriptRunner.Log

open Text

/-! ## Comparing -/

/-- What a strictly monotone function makes of two values is compared as these are. -/
lemma compares_iff_of_strictMono {α β : Type} [LinearOrder α] [LinearOrder β] {f : α → β}
    (hf : StrictMono f) {o : Ordering} {a b : α} : o.Compares (f a) (f b) ↔ o.Compares a b := by
  cases o with
  | lt => exact hf.lt_iff_lt
  | eq => exact hf.injective.eq_iff
  | gt => exact hf.lt_iff_lt

/-- What is made of two parts, and ordered by the first one and then by the second one, is compared
in this way. -/
lemma compares_lex {α β γ : Type} [LinearOrder α] [LinearOrder β] [LinearOrder γ]
    {made : α → β → γ} (hlt : ∀ a b c d, made a c < made b d ↔ a < b ∨ a = b ∧ c < d)
    {o o' : Ordering} {a b : α} {c d : β} (h : o.Compares a b) (h' : o'.Compares c d) :
    (o.then o').Compares (made a c) (made b d) := by
  cases o with
  | lt => exact (hlt a b c d).mpr (.inl h)
  | gt => exact (hlt b a d c).mpr (.inl h)
  | eq =>
    obtain rfl : a = b := h
    cases o' with
    | lt => exact (hlt a a c d).mpr (.inr ⟨rfl, h'⟩)
    | gt => exact (hlt a a d c).mpr (.inr ⟨rfl, h'⟩)
    | eq => exact congrArg (made a) h'

/-- Pairs are compared by their first parts and then by the second ones. -/
lemma compares_toLex {α β : Type} [LinearOrder α] [LinearOrder β] {o o' : Ordering} {a b : α}
    {c d : β} (h : o.Compares a b) (h' : o'.Compares c d) :
    (o.then o').Compares (toLex (a, c)) (toLex (b, d)) :=
  have hlt (a b : α) (c d : β) : toLex (a, c) < toLex (b, d) ↔ a < b ∨ a = b ∧ c < d :=
    Prod.Lex.toLex_lt_toLex
  compares_lex hlt h h'

/-- Lists are compared by their first elements and then by the others. -/
lemma compares_cons {α : Type} [LinearOrder α] {o o' : Ordering} {a b : α} {as bs : List α}
    (h : o.Compares a b) (h' : o'.Compares as bs) : (o.then o').Compares (a :: as) (b :: bs) :=
  compares_lex (fun _ _ _ _ => List.cons_lt_cons_iff) h h'

namespace Directive

/-- Characters are compared by their numbers. -/
lemma compare_toNat_compares (a b : Char) : (compare a.toNat b.toNat).Compares a b := by
  have hmono : StrictMono Char.toNat := fun a b h => UInt32.lt_iff_toNat_lt.mp h
  exact (compares_iff_of_strictMono hmono).mp ((compare_iff _ _).mp rfl)

/-- Texts are compared as lists of characters. -/
lemma orderText_compares (s t : Text) : (orderText s t).Compares s t := by
  fun_induction orderText s t with
  | case1 => rfl
  | case2 => exact List.nil_lt_cons _ _
  | case3 => exact List.nil_lt_cons _ _
  | case4 a as b bs ih => exact compares_cons (compare_toNat_compares a b) ih

/-- A value that is missing counts as less than every value. -/
lemma orderOption_compares {α : Type} [LinearOrder α] {order : α → α → Ordering}
    (h : ∀ a b, (order a b).Compares a b) (a b : Option α) :
    (orderOption order a b).Compares (a.elim ⊥ WithBot.some) (b.elim ⊥ WithBot.some) := by
  cases a with
  | none =>
    cases b with
    | none => rfl
    | some b => exact WithBot.bot_lt_coe b
  | some a =>
    cases b with
    | none => exact WithBot.bot_lt_coe a
    | some b => exact (compares_iff_of_strictMono WithBot.coe_strictMono).mpr (h a b)

/-- A directive that can be decided for an entry alone: it has no span, and its fields are only to
be there. -/
structure IsStatic (d : Directive) : Prop where
  span : d.span = none
  value : ∀ field ∈ d.fields, field.value = none

/-- What the place of such a directive among others depends on: the length of its target and the
number of its fields, and, to tell all of them apart, the target and the names of the fields. -/
def key (d : Directive) : WithBot ℕ ×ₗ ℕ ×ₗ WithBot Text ×ₗ List Text :=
  toLex ((d.target.map fun t => (encode t).length).elim ⊥ WithBot.some,
    toLex (d.fields.length,
      toLex (d.target.elim ⊥ WithBot.some, d.fields.map FieldMatch.name)))

/-- Fields that are only to be there are compared by their names. -/
lemma orderFields_compares {fields fields' : List FieldMatch}
    (h : ∀ field ∈ fields, field.value = none) (h' : ∀ field ∈ fields', field.value = none) :
    (orderFields fields fields').Compares (fields.map FieldMatch.name)
      (fields'.map FieldMatch.name) := by
  fun_induction orderFields fields fields' with
  | case1 => rfl
  | case2 => exact List.nil_lt_cons _ _
  | case3 => exact List.nil_lt_cons _ _
  | case4 a as b bs ih =>
    obtain ⟨ha, has⟩ := List.forall_mem_cons.mp h
    obtain ⟨hb, hbs⟩ := List.forall_mem_cons.mp h'
    have hfirst : orderField a b = orderText a.name b.name := by
      rw [orderField, ha, hb]
      exact Ordering.then_eq
    rw [hfirst]
    exact compares_cons (orderText_compares a.name b.name) (ih has hbs)

variable {d e : Directive} {entry : Entry} {sorted : List Directive}

/-- Directives that are decided for an entry alone are ordered by their keys. -/
lemma specificity_compares (hd : d.IsStatic) (he : e.IsStatic) :
    (specificity d e).Compares d.key e.key := by
  have hscope : specificity d e =
      (orderOption compare (d.target.map fun t => (encode t).length)
        (e.target.map fun t => (encode t).length)).then
      ((compare d.fields.length e.fields.length).then
        ((orderOption orderText d.target e.target).then (orderFields d.fields e.fields))) := by
    rw [specificity, hd.span, he.span]
    rfl
  rw [hscope]
  exact compares_toLex (orderOption_compares (fun a b => (compare_iff a b).mp rfl) _ _)
    (compares_toLex ((compare_iff _ _).mp rfl)
      (compares_toLex (orderOption_compares orderText_compares _ _)
        (orderFields_compares hd.value he.value)))

/-- A value that is missing is told apart from every value. -/
lemma elim_bot_injective {α : Type} :
    Function.Injective fun a : Option α => a.elim ⊥ WithBot.some := by
  intro a b h
  cases a with
  | none =>
    cases b with
    | none => rfl
    | some b => exact absurd h WithBot.bot_ne_coe
  | some a =>
    cases b with
    | none => exact absurd h WithBot.coe_ne_bot
    | some b => exact congrArg some (WithBot.coe_injective h)

/-- Directives with the same key apply to the same entries. -/
lemma applies_eq_of_key_eq (h : d.key = e.key) : d.applies entry = e.applies entry := by
  obtain ⟨-, h⟩ := Prod.mk.inj (toLex.injective h)
  obtain ⟨-, h⟩ := Prod.mk.inj (toLex.injective h)
  obtain ⟨htarget, hnames⟩ := Prod.mk.inj (toLex.injective h)
  rw [applies, applies, elim_bot_injective htarget]
  congr 1
  have hall : ∀ fields : List FieldMatch,
      (fields.all fun f =>
        f.name == "message".toList || entry.fields.any fun field => field.1 == f.name) =
      (fields.map FieldMatch.name).all fun name =>
        name == "message".toList || entry.fields.any fun field => field.1 == name := by
    intro fields
    rw [List.all_map]
    rfl
  rw [hall, hall, hnames]

/-! ## Filters -/

/-- A directive that is put among others stands among them with these only. -/
lemma eq_or_mem_of_mem_insert (h : e ∈ d.insert sorted) : e = d ∨ e ∈ sorted := by
  induction sorted with
  | nil => exact .inl (List.mem_singleton.mp h)
  | cons first rest ih =>
    rw [insert] at h
    split at h
    · exact (List.mem_cons.mp h).imp_right (List.mem_cons_of_mem _)
    · exact List.mem_cons.mp h
    · rcases List.mem_cons.mp h with rfl | h
      · exact .inr List.mem_cons_self
      · exact (ih h).imp_right (List.mem_cons_of_mem _)

/-- The directives of a filter: they are decided for an entry alone, the most specific comes first,
and no two of them are equally specific. -/
structure InForce (sorted : List Directive) : Prop where
  isStatic : ∀ d ∈ sorted, d.IsStatic
  pairwise : sorted.Pairwise fun d e => e.key < d.key

/-- Directives are kept in order when one is put among them. -/
lemma InForce.insert (h : InForce sorted) (hd : d.IsStatic) : InForce (d.insert sorted) where
  isStatic := by
    intro e he
    rcases eq_or_mem_of_mem_insert he with rfl | he
    · exact hd
    · exact h.isStatic e he
  pairwise := by
    obtain ⟨hstatic, hpairwise⟩ := h
    induction sorted with
    | nil => exact List.pairwise_singleton _ _
    | cons first rest ih =>
      obtain ⟨hfirst, hrest⟩ := List.forall_mem_cons.mp hstatic
      obtain ⟨habove, hbelow⟩ := List.pairwise_cons.mp hpairwise
      have hcompares := specificity_compares hd hfirst
      rw [Directive.insert]
      split
      · next heq =>
        rw [heq] at hcompares
        have hkey : d.key = first.key := hcompares
        exact List.pairwise_cons.mpr ⟨fun e he => hkey ▸ habove e he, hbelow⟩
      · next hgt =>
        rw [hgt] at hcompares
        have hkey : first.key < d.key := hcompares
        refine List.pairwise_cons.mpr ⟨fun e he => ?_, hpairwise⟩
        rcases List.mem_cons.mp he with rfl | he
        · exact hkey
        · exact (habove e he).trans hkey
      · next hlt =>
        rw [hlt] at hcompares
        have hkey : d.key < first.key := hcompares
        refine List.pairwise_cons.mpr ⟨fun e he => ?_, ih hrest hbelow⟩
        rcases eq_or_mem_of_mem_insert he with rfl | he
        · exact hkey
        · exact habove e he

/-- The first directive that applies to an entry. -/
def firstFor (entry : Entry) (ds : List Directive) : Option Directive := ds.find? (·.applies entry)

/-- A directive that applies is the first one for an entry. -/
lemma firstFor_cons_of_applies (h : d.applies entry = true) (ds : List Directive) :
    firstFor entry (d :: ds) = some d := List.find?_cons_of_pos h

/-- A directive that does not apply is passed over. -/
lemma firstFor_cons_of_not_applies (h : ¬ d.applies entry = true) (ds : List Directive) :
    firstFor entry (d :: ds) = firstFor entry ds := List.find?_cons_of_neg h

/-- The directive that decides behind the next one: this one if it applies and the one before is not
more specific. -/
def prefer (entry : Entry) (best : Option Directive) (d : Directive) : Option Directive :=
  if d.applies entry = true ∧ ∀ e ∈ best, e.key ≤ d.key then some d else best

/-- A directive that does not apply is not preferred. -/
lemma prefer_of_not_applies (h : ¬ d.applies entry = true) (best : Option Directive) :
    prefer entry best d = best := if_neg fun hboth => h hboth.1

/-- A directive that applies is preferred to one that is not more specific. -/
lemma prefer_of_applies {best : Option Directive} (h : d.applies entry = true)
    (hbest : ∀ e ∈ best, e.key ≤ d.key) : prefer entry best d = some d := if_pos ⟨h, hbest⟩

/-- A directive is not preferred to one that is more specific. -/
lemma prefer_of_key_lt (h : d.key < e.key) : prefer entry (some e) d = some e :=
  if_neg fun hboth => absurd (hboth.2 e rfl) (not_le_of_gt h)

/-- When a directive is put among others, it decides where it is preferred to the one that decided
before. -/
lemma firstFor_insert (h : InForce sorted) (hd : d.IsStatic) :
    firstFor entry (d.insert sorted) = prefer entry (firstFor entry sorted) d := by
  obtain ⟨hstatic, hpairwise⟩ := h
  induction sorted with
  | nil =>
    by_cases happlies : d.applies entry = true
    · rw [prefer_of_applies happlies fun e he => by cases he]
      exact firstFor_cons_of_applies happlies []
    · rw [prefer_of_not_applies happlies]
      exact firstFor_cons_of_not_applies happlies []
  | cons first rest ih =>
    obtain ⟨hfirst, hrest⟩ := List.forall_mem_cons.mp hstatic
    obtain ⟨habove, hbelow⟩ := List.pairwise_cons.mp hpairwise
    have hcompares := specificity_compares hd hfirst
    rw [insert]
    split
    · next heq =>
      rw [heq] at hcompares
      have hkey : d.key = first.key := hcompares
      have hsame : d.applies entry = first.applies entry := applies_eq_of_key_eq hkey
      by_cases happlies : d.applies entry = true
      · rw [firstFor_cons_of_applies happlies, firstFor_cons_of_applies (hsame ▸ happlies),
          prefer_of_applies happlies]
        rintro e ⟨⟩
        exact hkey.ge
      · rw [prefer_of_not_applies happlies, firstFor_cons_of_not_applies happlies,
          firstFor_cons_of_not_applies (hsame ▸ happlies)]
    · next hgt =>
      rw [hgt] at hcompares
      have hkey : first.key < d.key := hcompares
      by_cases happlies : d.applies entry = true
      · rw [firstFor_cons_of_applies happlies, prefer_of_applies happlies]
        intro e he
        rcases List.mem_cons.mp (List.mem_of_find?_eq_some he) with rfl | hmem
        · exact hkey.le
        · exact ((habove e hmem).trans hkey).le
      · rw [firstFor_cons_of_not_applies happlies, prefer_of_not_applies happlies]
    · next hlt =>
      rw [hlt] at hcompares
      have hkey : d.key < first.key := hcompares
      by_cases happlies : first.applies entry = true
      · rw [firstFor_cons_of_applies happlies, firstFor_cons_of_applies happlies,
          prefer_of_key_lt hkey]
      · rw [firstFor_cons_of_not_applies happlies, firstFor_cons_of_not_applies happlies,
          ih hrest hbelow]

/-- Of directives that are put among others one after the other, the one decides that is preferred
in the end. -/
lemma firstFor_foldl_insert {ds : List Directive} (h : InForce sorted)
    (hds : ∀ d ∈ ds, d.IsStatic) :
    firstFor entry (ds.foldl (fun sorted d => d.insert sorted) sorted) =
      ds.foldl (prefer entry) (firstFor entry sorted) := by
  induction ds generalizing sorted with
  | nil => rfl
  | cons d ds ih =>
    obtain ⟨hd, hrest⟩ := List.forall_mem_cons.mp hds
    rw [List.foldl_cons, List.foldl_cons, ih (h.insert hd) hrest, firstFor_insert h hd]

/-- A directive that does not apply has no say. -/
lemma foldl_prefer_of_not_applies (h : ¬ d.applies entry = true) (before behind : List Directive)
    (best : Option Directive) :
    (before ++ d :: behind).foldl (prefer entry) best =
      (before ++ behind).foldl (prefer entry) best := by
  rw [List.foldl_append, List.foldl_cons, prefer_of_not_applies h, ← List.foldl_append]

/-- The directive that is preferred in the end applies and is one of all. -/
lemma of_mem_foldl_prefer {ds : List Directive} {best : Option Directive}
    (h : d ∈ ds.foldl (prefer entry) best) : d ∈ best ∨ d ∈ ds ∧ d.applies entry = true := by
  induction ds generalizing best with
  | nil => exact .inl h
  | cons first ds ih =>
    rcases ih h with hnext | ⟨hmem, happlies⟩
    · unfold prefer at hnext
      split at hnext
      · next hprefer =>
        obtain rfl := Option.some.inj hnext
        exact .inr ⟨List.mem_cons_self, hprefer.1⟩
      · exact .inl hnext
    · exact .inr ⟨List.mem_cons_of_mem _ hmem, happlies⟩

/-- A directive that applies decides if it is more specific than all others that apply. -/
lemma foldl_prefer_of_applies {before behind : List Directive} (h : d.applies entry = true)
    (hbefore : ∀ e ∈ before, e.applies entry = true → e.key < d.key)
    (hbehind : ∀ e ∈ behind, e.applies entry = true → e.key < d.key) :
    (before ++ d :: behind).foldl (prefer entry) none = some d := by
  rw [List.foldl_append, List.foldl_cons, prefer_of_applies h]
  · induction behind with
    | nil => rfl
    | cons e behind ih =>
      obtain ⟨he, hrest⟩ := List.forall_mem_cons.mp hbehind
      rw [List.foldl_cons]
      by_cases happlies : e.applies entry = true
      · rw [prefer_of_key_lt (he happlies)]
        exact ih hrest
      · rw [prefer_of_not_applies happlies]
        exact ih hrest
  · intro e he
    rcases of_mem_foldl_prefer he with hnone | ⟨hmem, happlies⟩
    · cases hnone
    · exact (hbefore e hmem happlies).le

/-- The directives among some that are decided for an entry alone: first those about targets only,
then those about fields. -/
def statics (ds : List Directive) : List Directive :=
  ds.filter (!·.hasScope) ++ (ds.filter (·.hasScope)).filterMap static?

/-- These are decided for an entry alone, and are among all of them. -/
lemma of_mem_statics {ds : List Directive} (h : d ∈ statics ds) : d.IsStatic ∧ d ∈ ds := by
  rcases List.mem_append.mp h with h | h
  · obtain ⟨hmem, hscope⟩ := List.mem_filter.mp h
    simp only [hasScope, Bool.not_or, Bool.not_not, Bool.and_eq_true, Bool.not_eq_true',
      Option.isSome_eq_false_iff, Option.isNone_iff_eq_none, List.isEmpty_iff] at hscope
    refine ⟨⟨hscope.1, ?_⟩, hmem⟩
    rw [hscope.2]
    exact fun field hfield => absurd hfield List.not_mem_nil
  · obtain ⟨e, he, hstatic⟩ := List.mem_filterMap.mp h
    unfold static? at hstatic
    split at hstatic
    · next hplain =>
      obtain rfl := Option.some.inj hstatic
      simp only [Bool.and_eq_true, Option.isNone_iff_eq_none, List.all_eq_true] at hplain
      exact ⟨⟨hplain.1, hplain.2⟩, (List.mem_filter.mp he).1⟩
    · cases hstatic

end Directive

/-- The filter of some directives enables an entry if the directive that is preferred in the end
admits its level. -/
lemma Filter.enables_ofDirectives (ds : List Directive) (entry : Entry) :
    (ofDirectives ds).enables entry =
      ((Directive.statics ds).foldl (Directive.prefer entry) none).any fun d =>
        d.threshold.admits entry.level := by
  have hnone : Directive.InForce [] := ⟨by simp, List.Pairwise.nil⟩
  have hfirst : Directive.firstFor entry (ofDirectives ds).static =
      (Directive.statics ds).foldl (Directive.prefer entry) none :=
    Directive.firstFor_foldl_insert hnone fun d hd => (Directive.of_mem_statics hd).1
  rw [← hfirst, enables, Directive.firstFor]
  cases (ofDirectives ds).static.find? (Directive.applies · entry) <;> rfl

end ScriptRunner.Log
