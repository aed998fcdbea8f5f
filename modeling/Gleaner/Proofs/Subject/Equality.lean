import Gleaner.Proofs.Subject.Retraction
import Mathlib.Data.List.Forall2

/-!
# Equality of subjects

Doubles are compared as numbers: a NaN is equal to nothing, not even to itself, and the two zeros
are equal. Subjects inherit both from the doubles they hold, at any depth. So equality of subjects
is symmetric and transitive, and it is reflexive on just those subjects that hold no NaN.

A comparison goes into both subjects at the same time. `EqualParts` says what one step of it asks of
two subjects and leaves the comparison of their parts to equality again; what follows about equality
is by induction on the parts, with this step in between.
-/

namespace Gleaner

namespace Binary64

variable {x y z : Binary64}

theorem equal_iff : x.equal y = true ↔
    x.isNaN = false ∧ y.isNaN = false ∧ (x = y ∨ x.isZero = true ∧ y.isZero = true) := by
  simp [equal, and_assoc]

theorem equal_self_iff : x.equal x = true ↔ x.isNaN = false := by
  simp [equal_iff]

theorem equal_symm (h : x.equal y = true) : y.equal x = true := by
  obtain ⟨hx, hy, hxy⟩ := equal_iff.1 h
  exact equal_iff.2 ⟨hy, hx, hxy.imp Eq.symm And.symm⟩

theorem equal_trans (hxy : x.equal y = true) (hyz : y.equal z = true) : x.equal z = true := by
  obtain ⟨hx, -, hsame⟩ := equal_iff.1 hxy
  obtain ⟨-, hz, hsame'⟩ := equal_iff.1 hyz
  apply equal_iff.2 ⟨hx, hz, _⟩
  obtain rfl | ⟨hzero, hzero'⟩ := hsame
  · exact hsame'
  · obtain rfl | ⟨-, hzero''⟩ := hsame'
    · exact .inr ⟨hzero, hzero'⟩
    · exact .inr ⟨hzero, hzero''⟩

end Binary64

namespace Subject

def NotNaN : Subject → Prop
  | float x => x.isNaN = false
  | _ => True

/-! ### One step of the comparison -/

/-- How two subjects can be equal, in terms of the equality of their parts. -/
inductive EqualParts : Subject → Subject → Prop
  | float {x y : Binary64} (h : x.equal y = true) : EqualParts (float x) (float y)
  | sequence {items others : List Subject}
      (h : List.Forall₂ (fun item other => item == other) items others) :
      EqualParts (sequence items) (sequence others)
  | map {entries others : List (Key × Subject)}
      (h : List.Forall₂ (fun entry other => entry.1 = other.1 ∧ entry.2 == other.2)
        entries others) : EqualParts (map entries) (map others)
  | same {s : Subject} (hsingle : s.isCollection = false) (hfloat : ∀ x, s ≠ float x) :
      EqualParts s s

theorem equalItems_iff {items others : List Subject} : equalItems items others = true ↔
    List.Forall₂ (fun item other => item == other) items others := by
  induction items generalizing others with
  | nil => cases others <;> simp [equalItems]
  | cons item rest ih =>
    cases others with
    | nil => simp [equalItems]
    | cons other others =>
      rw [equalItems, Bool.and_eq_true, ih, List.forall₂_cons]
      exact Iff.rfl

theorem equalEntries_iff {entries others : List (Key × Subject)} :
    equalEntries entries others = true ↔
      List.Forall₂ (fun entry other => entry.1 = other.1 ∧ entry.2 == other.2) entries others := by
  induction entries generalizing others with
  | nil => cases others <;> simp [equalEntries]
  | cons entry rest ih =>
    cases others with
    | nil => simp [equalEntries]
    | cons other others =>
      rw [equalEntries, Bool.and_eq_true, Bool.and_eq_true, decide_eq_true_iff, ih,
        List.forall₂_cons]
      exact Iff.rfl

theorem equalParts_of_beq {a b : Subject} (h : a == b) : EqualParts a b := by
  replace h : equal a b = true := h
  rw [equal.eq_def] at h
  split at h
  · exact .same rfl nofun
  · obtain rfl := of_decide_eq_true h
    exact .same rfl nofun
  · obtain rfl := of_decide_eq_true h
    exact .same rfl nofun
  · exact .float h
  · obtain rfl := of_decide_eq_true h
    exact .same rfl nofun
  · exact .sequence (equalItems_iff.1 h)
  · exact .map (equalEntries_iff.1 h)
  · obtain rfl := of_decide_eq_true h
    exact .same rfl nofun
  · cases h

theorem EqualParts.beq {a b : Subject} (h : EqualParts a b) : a == b := by
  show equal a b = true
  cases h with
  | float h => exact h
  | sequence h => exact equalItems_iff.2 h
  | map h => exact equalEntries_iff.2 h
  | same hsingle hfloat =>
    cases a with
    | float x => exact absurd rfl (hfloat x)
    | sequence items => cases hsingle
    | map entries => cases hsingle
    | _ => simp [equal]

theorem typeName_eq_of_beq {a b : Subject} (h : a == b) : a.typeName = b.typeName := by
  cases equalParts_of_beq h with
  | same => rfl
  | _ => rfl

/-! ### A partial equivalence -/

theorem beq_self_iff {a : Subject} : a == a ↔ a.Everywhere NotNaN := by
  induction a with
  | single a hsingle =>
    rw [everywhere_iff_of_not_isCollection hsingle]
    cases a with
    | float x => exact Binary64.equal_self_iff
    | sequence items => cases hsingle
    | map entries => cases hsingle
    | _ =>
      apply iff_of_true _ trivial
      apply EqualParts.beq
      exact .same rfl nofun
  | sequence items ih =>
    rw [everywhere_sequence_iff, ← forall₂_congr ih]
    have hitems : equalItems items items = true ↔ ∀ item ∈ items, item == item := by
      rw [equalItems_iff, List.forall₂_same]
    rw [← hitems]
    exact (and_iff_right trivial).symm
  | map entries ih =>
    rw [everywhere_map_iff, ← forall₂_congr ih]
    have hentries : equalEntries entries entries = true ↔
        ∀ entry ∈ entries, entry.2 == entry.2 := by
      rw [equalEntries_iff, List.forall₂_same]
      simp
    rw [← hentries]
    exact (and_iff_right trivial).symm

theorem forall₂_symm_of_mem {α : Type} {R : α → α → Prop} {items others : List α}
    (hitems : ∀ item ∈ items, ∀ other, R item other → R other item)
    (h : List.Forall₂ R items others) : List.Forall₂ R others items := by
  apply List.Forall₂.flip
  have hboth := (List.forall₂_and_left _ _).2 ⟨hitems, h⟩
  exact hboth.imp fun item other hpair => hpair.1 other hpair.2

theorem forall₂_trans_of_mem {α : Type} {R : α → α → Prop} {items others more : List α}
    (hitems : ∀ item ∈ items, ∀ other another, R item other → R other another → R item another)
    (h : List.Forall₂ R items others) (h' : List.Forall₂ R others more) :
    List.Forall₂ R items more := by
  induction h generalizing more with
  | nil => exact h'
  | cons hhead _ ih =>
    cases h' with
    | cons hhead' hrest' =>
      rw [List.forall_mem_cons] at hitems
      exact .cons (hitems.1 _ _ hhead hhead') (ih hitems.2 hrest')

theorem beq_symm {a b : Subject} (h : a == b) : b == a := by
  induction a generalizing b with
  | single a hsingle =>
    cases equalParts_of_beq h with
    | float hxy => exact EqualParts.beq (.float (Binary64.equal_symm hxy))
    | sequence => cases hsingle
    | map => cases hsingle
    | same => exact h
  | sequence items ih =>
    cases equalParts_of_beq h with
    | sequence hitems =>
      apply EqualParts.beq
      apply EqualParts.sequence
      exact forall₂_symm_of_mem (fun item hitem other => ih item hitem) hitems
    | same hsingle => cases hsingle
  | map entries ih =>
    cases equalParts_of_beq h with
    | map hentries =>
      apply EqualParts.beq
      apply EqualParts.map
      apply forall₂_symm_of_mem _ hentries
      intro entry hentry other hpair
      exact ⟨hpair.1.symm, ih entry hentry hpair.2⟩
    | same hsingle => cases hsingle

theorem beq_trans {a b c : Subject} (hab : a == b) (hbc : b == c) : a == c := by
  induction a generalizing b c with
  | single a hsingle =>
    cases equalParts_of_beq hab with
    | float hxy =>
      cases equalParts_of_beq hbc with
      | float hyz => exact EqualParts.beq (.float (Binary64.equal_trans hxy hyz))
      | same _ hfloat => exact absurd rfl (hfloat _)
    | sequence => cases hsingle
    | map => cases hsingle
    | same => exact hbc
  | sequence items ih =>
    cases equalParts_of_beq hab with
    | sequence hitems =>
      cases equalParts_of_beq hbc with
      | sequence hothers =>
        apply EqualParts.beq
        apply EqualParts.sequence
        exact forall₂_trans_of_mem (fun item hitem other another => ih item hitem) hitems hothers
      | same hsingle => cases hsingle
    | same hsingle => cases hsingle
  | map entries ih =>
    cases equalParts_of_beq hab with
    | map hentries =>
      cases equalParts_of_beq hbc with
      | map hothers =>
        apply EqualParts.beq
        apply EqualParts.map
        apply forall₂_trans_of_mem _ hentries hothers
        intro entry hentry other another hpair hpair'
        exact ⟨hpair.1.trans hpair'.1, ih entry hentry hpair.2 hpair'.2⟩
      | same hsingle => cases hsingle
    | same hsingle => cases hsingle

end Subject

end Gleaner
