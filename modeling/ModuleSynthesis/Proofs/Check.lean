import Mathlib.Data.List.Forall2

/-!
# Checks one after another

The members of a list are checked in order, and the first error ends it.

* `List.Forall₂.exists_getElem?`, `List.Forall₂.exists_of_mem_left`: what is found in lists whose
  members go together.
* `checkAll_eq_ok_iff`, `checkAll_eq_error_iff`: what comes of the members of a list, and which of
  them is to blame where nothing does.
* `FirstFault`, `Reports`: where it is said place by place what can be wrong, checks report the
  fault at the first place that has one.
* `Reports.checkAll`: so do checks of a list if those of its members do.
-/

namespace List.Forall₂

variable {α β : Type} {R : α → β → Prop} {xs : List α} {ys : List β}

theorem exists_getElem? (h : Forall₂ R xs ys) {index : Nat} {x : α} (hx : xs[index]? = some x) :
    ∃ y, ys[index]? = some y ∧ R x y := by
  induction h generalizing index with
  | nil => cases hx
  | cons hfirst _ ih =>
    cases index with
    | zero => cases hx; exact ⟨_, rfl, hfirst⟩
    | succ index => exact ih hx

theorem of_getElem? (h : Forall₂ R xs ys) {index : Nat} {x : α} {y : β}
    (hx : xs[index]? = some x) (hy : ys[index]? = some y) : R x y := by
  obtain ⟨other, hother, hR⟩ := h.exists_getElem? hx
  cases hother.symm.trans hy
  exact hR

theorem exists_getElem?_right (h : Forall₂ R xs ys) {index : Nat} {y : β}
    (hy : ys[index]? = some y) : ∃ x, xs[index]? = some x ∧ R x y := by
  have hflip : Forall₂ (fun y x => R x y) ys xs := Forall₂.flip h
  exact hflip.exists_getElem? hy

theorem exists_of_mem_left (h : Forall₂ R xs ys) {x : α} (hx : x ∈ xs) : ∃ y ∈ ys, R x y := by
  obtain ⟨index, hindex⟩ := List.mem_iff_getElem?.mp hx
  obtain ⟨y, hy, hR⟩ := h.exists_getElem? hindex
  exact ⟨y, List.mem_of_getElem? hy, hR⟩

theorem exists_of_mem_right (h : Forall₂ R xs ys) {y : β} (hy : y ∈ ys) : ∃ x ∈ xs, R x y := by
  obtain ⟨index, hindex⟩ := List.mem_iff_getElem?.mp hy
  obtain ⟨x, hx, hR⟩ := h.exists_getElem?_right hindex
  exact ⟨x, List.mem_of_getElem? hx, hR⟩

end List.Forall₂

namespace ModuleSynthesis

section

variable {P E α β : Type} {before : P → P → Prop} {faultAt : P → E → Prop}

/-! ## Lists of checks -/

/-- The results for the members of a list, which are taken one after another, or the first error. A
member is taken with its index, which is counted from a first one. -/
def checkAll (f : Nat → α → Except E β) : Nat → List α → Except E (List β)
  | _, [] => .ok []
  | index, item :: items =>
    match f index item with
    | .error error => .error error
    | .ok result =>
      match checkAll f (index + 1) items with
      | .error error => .error error
      | .ok results => .ok (result :: results)

variable {f : Nat → α → Except E β} {R : α → β → Prop} {first : Nat} {items : List α}

theorem checkAll_cons_of_error {item : α} {error : E} (h : f first item = .error error) :
    checkAll f first (item :: items) = .error error := by
  rw [checkAll, h]

theorem checkAll_cons_of_ok {item : α} {result : β} (h : f first item = .ok result) :
    checkAll f first (item :: items) = (checkAll f (first + 1) items).map (result :: ·) := by
  rw [checkAll, h]
  cases checkAll f (first + 1) items <;> rfl

/-- Where the index of a member counts for errors only, a list is checked pointwise. -/
theorem checkAll_eq_ok_iff (h : ∀ index item result, f index item = .ok result ↔ R item result)
    {results : List β} : checkAll f first items = .ok results ↔ List.Forall₂ R items results := by
  induction items generalizing first results with
  | nil => cases results <;> simp [checkAll]
  | cons item items ih =>
    rw [List.forall₂_cons_left_iff]
    simp only [← h first, ← @ih (first + 1)]
    cases hitem : f first item with
    | error error => simp [checkAll_cons_of_error hitem]
    | ok result =>
      rw [checkAll_cons_of_ok hitem]
      cases checkAll f (first + 1) items with
      | error error => simp [Except.map]
      | ok rest => simp [Except.map, eq_comm]

/-- The member to blame for an error is the first one that nothing comes of. -/
theorem checkAll_eq_error_iff
    (h : ∀ index item result, f index item = .ok result ↔ R item result) {error : E} :
    checkAll f first items = .error error ↔ ∃ before item after, items = before ++ item :: after ∧
      (∀ earlier ∈ before, ∃ result, R earlier result) ∧
      f (first + before.length) item = .error error := by
  induction items generalizing first with
  | nil => simp [checkAll]
  | cons item items ih =>
    have hshift (before : List α) : first + 1 + before.length = first + (before.length + 1) := by
      omega
    cases hitem : f first item with
    | error found =>
      rw [checkAll_cons_of_error hitem, Except.error.injEq]
      constructor
      · rintro rfl
        exact ⟨[], item, items, rfl, by simp, hitem⟩
      · rintro ⟨_ | ⟨earlier, before⟩, other, after, ⟨⟩, hbefore, hother⟩
        · exact Except.error.inj (hitem.symm.trans hother)
        · obtain ⟨result, hresult⟩ := hbefore item List.mem_cons_self
          cases hitem.symm.trans ((h first item result).mpr hresult)
    | ok result =>
      have hrest : (checkAll f (first + 1) items).map (result :: ·) = .error error ↔
          checkAll f (first + 1) items = .error error := by
        cases checkAll f (first + 1) items <;> simp [Except.map]
      rw [checkAll_cons_of_ok hitem, hrest, ih]
      constructor
      · rintro ⟨before, other, after, rfl, hbefore, hother⟩
        refine ⟨item :: before, other, after, rfl, ?_, by rwa [List.length_cons, ← hshift]⟩
        rintro earlier (_ | ⟨_, hearlier⟩)
        · exact ⟨result, (h first item result).mp hitem⟩
        · exact hbefore earlier hearlier
      · rintro ⟨_ | ⟨earlier, before⟩, other, after, ⟨⟩, hbefore, hother⟩
        · cases hitem.symm.trans hother
        · exact ⟨before, other, after, rfl,
            fun earlier hearlier => hbefore earlier (List.mem_cons_of_mem _ hearlier),
            by rwa [hshift]⟩

/-! ## Reporting the first fault -/

/-- An error is the first fault: there is a place where it is the fault, and every other fault is at
a later place. -/
def FirstFault (before : P → P → Prop) (faultAt : P → E → Prop) (error : E) : Prop :=
  ∃ place, faultAt place error ∧
    ∀ other found, faultAt other found → other = place ∨ before place other

/-- What comes of checks: a result where there is no fault, or else the first fault. -/
def Reports (before : P → P → Prop) (faultAt : P → E → Prop) : Except E α → Prop
  | .ok _ => ∀ place error, ¬ faultAt place error
  | .error error => FirstFault before faultAt error

theorem Reports.map {outcome : Except E α} (h : Reports before faultAt outcome) (f : α → β) :
    Reports before faultAt (outcome.map f) := by
  cases outcome with
  | ok => exact h
  | error => exact h

theorem Reports.exists_ok_iff {outcome : Except E α} (h : Reports before faultAt outcome) :
    (∃ result, outcome = .ok result) ↔ ∀ place error, ¬ faultAt place error := by
  cases outcome with
  | ok result => exact ⟨fun _ => h, fun _ => ⟨result, rfl⟩⟩
  | error error =>
    obtain ⟨place, hfault, -⟩ := h
    exact ⟨nofun, fun hnone => absurd hfault (hnone place error)⟩

/-- Where places are in order and no place has two faults, the first fault is what is reported. -/
theorem Reports.eq_error_iff {outcome : Except E α} (h : Reports before faultAt outcome)
    (hasymm : ∀ place other, before place other → ¬ before other place)
    (hunique : ∀ place error found, faultAt place error → faultAt place found → error = found)
    (error : E) : outcome = .error error ↔ FirstFault before faultAt error := by
  constructor
  · rintro rfl
    exact h
  · rintro ⟨place, hfault, hfirst⟩
    cases outcome with
    | ok => exact absurd hfault (h place error)
    | error found =>
      obtain ⟨other, hfound, hother⟩ := h
      have hsame : place = other := by
        rcases hfirst other found hfound with rfl | hbefore
        · rfl
        · exact (hother place error hfault).resolve_right (hasymm place other hbefore)
      subst hsame
      rw [hunique place error found hfault hfound]

/-- A fault of a list is a fault of one of its members. -/
def MemberFault (faultAt : Nat → α → P → E → Prop) (first : Nat) (items : List α)
    (place : Nat × P) (error : E) : Prop :=
  ∃ item, items[place.1]? = some item ∧ faultAt (first + place.1) item place.2 error

theorem memberFault_cons_iff {faultAt : Nat → α → P → E → Prop} {first : Nat} {item : α}
    {items : List α} {place : Nat × P} {error : E} :
    MemberFault faultAt first (item :: items) place error ↔
      (place.1 = 0 ∧ faultAt first item place.2 error) ∨
      ∃ index, place.1 = index + 1 ∧
        MemberFault faultAt (first + 1) items (index, place.2) error := by
  obtain ⟨index, inner⟩ := place
  cases index with
  | zero => simp [MemberFault]
  | succ index =>
    have hshift : first + 1 + index = first + (index + 1) := by omega
    simp [MemberFault, hshift]

/-- Checks of a list report the first fault of its first member that has one. -/
theorem Reports.checkAll {f : Nat → α → Except E β} {faultAt : Nat → α → P → E → Prop}
    (h : ∀ index item, Reports before (faultAt index item) (f index item)) (first : Nat)
    (items : List α) :
    Reports (Prod.Lex (· < ·) before) (MemberFault faultAt first items)
      (checkAll f first items) := by
  induction items generalizing first with
  | nil => rintro place error ⟨item, hitem, -⟩; cases hitem
  | cons item items ih =>
    rw [ModuleSynthesis.checkAll]
    have hhead := h first item
    cases hitem : f first item with
    | error error =>
      rw [hitem] at hhead
      obtain ⟨inner, hfault, hfirst⟩ := hhead
      refine ⟨(0, inner), memberFault_cons_iff.mpr (.inl ⟨rfl, hfault⟩), ?_⟩
      rintro ⟨index, other⟩ found hfound
      rcases memberFault_cons_iff.mp hfound with ⟨rfl, hfound⟩ | ⟨_, rfl, -⟩
      · rcases hfirst other found hfound with rfl | hbefore
        · exact .inl rfl
        · exact .inr (.right 0 hbefore)
      · exact .inr (.left _ _ (Nat.succ_pos _))
    | ok result =>
      rw [hitem] at hhead
      have htail := ih (first + 1)
      cases hitems : ModuleSynthesis.checkAll f (first + 1) items with
      | ok results =>
        rw [hitems] at htail
        intro place error hfault
        rcases memberFault_cons_iff.mp hfault with ⟨-, hfault⟩ | ⟨index, -, hfault⟩
        · exact hhead _ _ hfault
        · exact htail _ _ hfault
      | error error =>
        rw [hitems] at htail
        obtain ⟨⟨index, inner⟩, hfault, hfirst⟩ := htail
        refine ⟨(index + 1, inner), memberFault_cons_iff.mpr (.inr ⟨index, rfl, hfault⟩), ?_⟩
        rintro ⟨position, other⟩ found hfound
        rcases memberFault_cons_iff.mp hfound with ⟨-, hfound⟩ | ⟨position, rfl, hfound⟩
        · exact absurd hfound (hhead _ _)
        · rcases hfirst _ found hfound with hsame | hbefore
          · cases hsame; exact .inl rfl
          · cases hbefore with
            | left _ _ hlt => exact .inr (.left _ _ (Nat.succ_lt_succ hlt))
            | right _ hbefore => exact .inr (.right _ hbefore)

end

end ModuleSynthesis
