import Mathlib.Data.List.Forall2

/-!
# Traversals that may fail

Lists are read and expanded element by element, up to the first failure. What comes of a whole list
is then what comes of its elements: there is a result exactly if each element has one, and it holds
theirs in order.
-/

namespace Gleaner.Traversal

variable {ε α β : Type}

theorem bind_eq_ok_iff {x : Except ε α} {f : α → Except ε β} {b : β} :
    x >>= f = .ok b ↔ ∃ a, x = .ok a ∧ f a = .ok b := by
  cases x with
  | error failure => exact iff_of_false nofun fun ⟨_, h, _⟩ => nomatch h
  | ok a =>
    constructor
    · intro h
      exact ⟨a, rfl, h⟩
    · rintro ⟨_, ⟨⟩, h⟩
      exact h

theorem bind_eq_error_iff {x : Except ε α} {f : α → Except ε β} {failure : ε} :
    x >>= f = .error failure ↔ x = .error failure ∨ ∃ a, x = .ok a ∧ f a = .error failure := by
  cases x <;> simp [bind, Except.bind]

theorem exists_ok_iff {x : Except ε α} : (∃ a, x = .ok a) ↔ ∀ failure, x ≠ .error failure := by
  cases x <;> simp

theorem map_eq_ok_iff {x : Except ε α} {f : α → β} {b : β} :
    x.map f = .ok b ↔ ∃ a, x = .ok a ∧ f a = b := by
  cases x with
  | error failure => exact iff_of_false nofun fun ⟨_, h, _⟩ => nomatch h
  | ok a => simp [Except.map]

theorem exists_map_eq_ok_iff {x : Except ε α} {f : α → β} :
    (∃ b, x.map f = .ok b) ↔ ∃ a, x = .ok a := by
  simp [map_eq_ok_iff]

theorem map_eq_error_iff {x : Except ε α} {f : α → β} {failure : ε} :
    x.map f = .error failure ↔ x = .error failure := by
  cases x <;> simp [Except.map]

theorem mapError_eq_ok_iff {δ : Type} {x : Except ε α} {f : ε → δ} {a : α} :
    x.mapError f = .ok a ↔ x = .ok a := by
  cases x <;> simp [Except.mapError]

theorem mapError_eq_error_iff {δ : Type} {x : Except ε α} {f : ε → δ} {failure : δ} :
    x.mapError f = .error failure ↔ ∃ fault, x = .error fault ∧ f fault = failure := by
  cases x <;> simp [Except.mapError]

/-- A traversal is pointwise. -/
theorem mapM_eq_ok_iff {f : α → Except ε β} {items : List α} {results : List β} :
    items.mapM f = .ok results ↔
      List.Forall₂ (fun item result => f item = .ok result) items results := by
  induction items generalizing results with
  | nil => cases results <;> simp [pure, Except.pure]
  | cons item rest ih =>
    rw [List.mapM_cons, bind_eq_ok_iff, List.forall₂_cons_left_iff]
    simp only [bind_eq_ok_iff, ih]
    constructor
    · rintro ⟨result, hitem, others, hrest, ⟨⟩⟩
      exact ⟨result, others, hitem, hrest, rfl⟩
    · rintro ⟨result, others, hitem, hrest, rfl⟩
      exact ⟨result, hitem, others, hrest, rfl⟩

theorem mapM_eq_ok_iff_of_mem {f : α → Except ε β} {R : α → β → Prop} {items : List α}
    {results : List β} (h : ∀ item ∈ items, ∀ result, f item = .ok result ↔ R item result) :
    items.mapM f = .ok results ↔ List.Forall₂ R items results := by
  have hmem {S : α → β → Prop} (hall : List.Forall₂ S items results) :
      List.Forall₂ (fun item result => item ∈ items ∧ S item result) items results :=
    (List.forall₂_and_left _ _).2 ⟨fun _ hitem => hitem, hall⟩
  rw [mapM_eq_ok_iff]
  constructor
  · intro hall
    exact (hmem hall).imp fun item result hresult => (h item hresult.1 result).1 hresult.2
  · intro hall
    exact (hmem hall).imp fun item result hresult => (h item hresult.1 result).2 hresult.2

theorem mapM_eq_mapM {γ : Type} {f : α → Except ε β} {g : γ → Except ε β} {items : List α}
    {others : List γ} (h : List.Forall₂ (fun item other => f item = g other) items others) :
    items.mapM f = others.mapM g := by
  induction h with
  | nil => rfl
  | cons hhead _ ih => rw [List.mapM_cons, List.mapM_cons, hhead, ih]

theorem mapM_map {γ : Type} {f : α → Except ε β} {g : β → γ} {items : List α} :
    (items.mapM fun item => (f item).map g) = (items.mapM f).map (List.map g) := by
  induction items with
  | nil => rfl
  | cons item rest ih =>
    rw [List.mapM_cons, List.mapM_cons, ih]
    cases f item with
    | error failure => rfl
    | ok result => cases rest.mapM f <;> rfl

theorem exists_mapM_eq_ok_iff {f : α → Except ε β} {items : List α} :
    (∃ results, items.mapM f = .ok results) ↔ ∀ item ∈ items, ∃ result, f item = .ok result := by
  induction items with
  | nil => simp [pure, Except.pure]
  | cons item rest ih =>
    simp only [List.mapM_cons, bind_eq_ok_iff, List.forall_mem_cons]
    rw [← ih]
    constructor
    · rintro ⟨_, result, hitem, others, hrest, -⟩
      exact ⟨⟨result, hitem⟩, others, hrest⟩
    · rintro ⟨⟨result, hitem⟩, others, hrest⟩
      exact ⟨_, result, hitem, others, hrest, rfl⟩

/-- A traversal fails as the first element on which it fails. -/
theorem mapM_eq_error_iff {f : α → Except ε β} {items : List α} {failure : ε} :
    items.mapM f = .error failure ↔
      ∃ before item after, items = before ++ item :: after ∧
        (∀ earlier ∈ before, ∃ result, f earlier = .ok result) ∧ f item = .error failure := by
  induction items with
  | nil => simp [pure, Except.pure]
  | cons head rest ih =>
    rw [List.mapM_cons, bind_eq_error_iff]
    constructor
    · rintro (hhead | ⟨result, hhead, hrest⟩)
      · exact ⟨[], head, rest, rfl, nofun, hhead⟩
      · obtain hrest | ⟨results, -, ⟨⟩⟩ := bind_eq_error_iff.1 hrest
        obtain ⟨before, item, after, rfl, hbefore, hitem⟩ := ih.1 hrest
        have hall := List.forall_mem_cons.2 ⟨⟨result, hhead⟩, hbefore⟩
        exact ⟨head :: before, item, after, rfl, hall, hitem⟩
    · rintro ⟨before, item, after, hsplit, hbefore, hitem⟩
      cases before with
      | nil =>
        obtain ⟨rfl, rfl⟩ := List.cons.inj hsplit
        exact .inl hitem
      | cons earlier before =>
        obtain ⟨rfl, rfl⟩ := List.cons.inj hsplit
        obtain ⟨⟨result, hhead⟩, hbefore⟩ := List.forall_mem_cons.1 hbefore
        refine .inr ⟨result, hhead, bind_eq_error_iff.2 (.inl ?_)⟩
        exact ih.2 ⟨before, item, after, rfl, hbefore, hitem⟩

theorem exists_of_mapM_error {f : α → Except ε β} {items : List α} {failure : ε}
    (h : items.mapM f = .error failure) : ∃ item ∈ items, f item = .error failure := by
  obtain ⟨before, item, after, rfl, -, hitem⟩ := mapM_eq_error_iff.1 h
  exact ⟨item, List.mem_append_right _ List.mem_cons_self, hitem⟩

theorem exists_of_foldlM_error {f : β → α → Except ε β} {items : List α} {start : β}
    {failure : ε} (h : items.foldlM f start = .error failure) :
    ∃ value, ∃ item ∈ items, f value item = .error failure := by
  induction items generalizing start with
  | nil => cases h
  | cons item rest ih =>
    rw [List.foldlM_cons, bind_eq_error_iff] at h
    obtain hitem | ⟨next, -, hrest⟩ := h
    · exact ⟨start, item, List.mem_cons_self, hitem⟩
    · obtain ⟨value, found, hfound, hfailure⟩ := ih hrest
      exact ⟨value, found, List.mem_cons_of_mem _ hfound, hfailure⟩

end Gleaner.Traversal
