/-
# DottedQuery.Proofs.Success -- when a row of fallible steps succeeds

Building a catalog, planning a query and preparing a statement are rows of steps that stop at the
first fault. This module says what it means that such a row did not stop: every step succeeded, and
each later one ran on the results of the earlier ones. The statements are equivalences, so that the
same lemma opens a success that is given and closes one that is wanted. Where a row did stop, it is told
which step it was; and of two rows it is told when they end alike.
-/
import DottedQuery.Proofs.Pairing

namespace DottedQuery

variable {ε δ α β γ : Type}

/-! ## Single steps -/

/-- Two steps in a row succeed exactly when the first does and then the second on its result. -/
theorem bind_eq_ok {x : Except ε α} {f : α → Except ε β} {b : β} :
    x >>= f = .ok b ↔ ∃ a, x = .ok a ∧ f a = .ok b := by
  cases x with
  | error e =>
    constructor
    · intro h
      cases h
    · rintro ⟨a, h, -⟩
      cases h
  | ok a =>
    constructor
    · intro h
      exact ⟨a, rfl, h⟩
    · rintro ⟨a', h, hf⟩
      cases h
      exact hf

/-- A step that only gives a result does not fail. -/
theorem pure_ne_error {a : α} {fault : ε} : (pure a : Except ε α) ≠ .error fault := by
  intro h
  cases h

/-- Two steps in a row fail where the first does, or else where the second does on its result. -/
theorem bind_eq_error {x : Except ε α} {f : α → Except ε β} {fault : ε} :
    x >>= f = .error fault ↔ x = .error fault ∨ ∃ a, x = .ok a ∧ f a = .error fault := by
  cases x with
  | error e =>
    constructor
    · intro h
      cases h
      exact Or.inl rfl
    · rintro (h | ⟨a, h, -⟩)
      · cases h
        rfl
      · cases h
  | ok a =>
    constructor
    · intro h
      exact Or.inr ⟨a, rfl, h⟩
    · rintro (h | ⟨a', h, hf⟩)
      · cases h
      · cases h
        exact hf

/-- Rewording the fault of a step neither makes nor spoils a success. -/
theorem mapError_succeeds {reword : ε → δ} {step : Except ε α} {result : α} :
    step.mapError reword = .ok result ↔ step = .ok result := by
  cases step with
  | error e =>
    constructor
    · intro h
      cases h
    · intro h
      cases h
  | ok a => rw [Except.mapError, Except.ok.injEq, Except.ok.injEq]

/-- Rewording the fault of a step keeps it failing. -/
theorem mapError_eq_error {reword : ε → δ} {step : Except ε α} {fault : δ} :
    step.mapError reword = .error fault ↔ ∃ cause, step = .error cause ∧ reword cause = fault := by
  cases step with
  | error e =>
    constructor
    · intro h
      exact ⟨e, rfl, Except.error.inj h⟩
    · rintro ⟨cause, h, rfl⟩
      cases h
      rfl
  | ok a =>
    constructor
    · intro h
      cases h
    · rintro ⟨cause, h, -⟩
      cases h

/-- A step whose result is changed succeeds exactly when it does. -/
theorem map_eq_ok {step : Except ε α} {change : α → β} {result : β} :
    step.map change = .ok result ↔ ∃ a, step = .ok a ∧ change a = result := by
  cases step with
  | error e =>
    constructor
    · intro h
      cases h
    · rintro ⟨a, h, -⟩
      cases h
  | ok a =>
    constructor
    · intro h
      exact ⟨a, rfl, Except.ok.inj h⟩
    · rintro ⟨a', h, rfl⟩
      cases h
      rfl

/-- Changing the result of a step neither makes nor mends a fault. -/
theorem map_eq_error {step : Except ε α} {change : α → β} {fault : ε} :
    step.map change = .error fault ↔ step = .error fault := by
  cases step with
  | error e => rw [Except.map, Except.error.injEq, Except.error.injEq]
  | ok a =>
    constructor
    · intro h
      cases h
    · intro h
      cases h

/-! ## Lists of steps -/

/-- A list of steps succeeds exactly when all do, with their results in the same order. -/
theorem mapM_eq_ok {f : α → Except ε β} {xs : List α} {ys : List β} :
    xs.mapM f = .ok ys ↔ List.Forall₂ (fun x y => f x = .ok y) xs ys := by
  induction xs generalizing ys with
  | nil =>
    rw [List.forall₂_nil_left_iff]
    constructor
    · intro h
      cases h
      rfl
    · rintro rfl
      rfl
  | cons x xs ih =>
    rw [List.mapM_cons, bind_eq_ok, List.forall₂_cons_left_iff]
    constructor
    · rintro ⟨y, hy, hrest⟩
      obtain ⟨zs, hzs, hpure⟩ := bind_eq_ok.mp hrest
      cases hpure
      exact ⟨y, zs, hy, ih.mp hzs, rfl⟩
    · rintro ⟨y, zs, hy, hzs, rfl⟩
      exact ⟨y, hy, bind_eq_ok.mpr ⟨zs, ih.mpr hzs, rfl⟩⟩

/-- A list of steps succeeds exactly when each of them does. -/
theorem exists_mapM_eq_ok {f : α → Except ε β} {xs : List α} :
    (∃ ys, xs.mapM f = .ok ys) ↔ ∀ x ∈ xs, ∃ y, f x = .ok y := by
  constructor
  · rintro ⟨ys, hys⟩ x hx
    obtain ⟨y, -, hy⟩ := exists_partner (mapM_eq_ok.mp hys).flip hx
    exact ⟨y, hy⟩
  · intro h
    obtain ⟨ys, hys⟩ := exists_forall₂ h
    exact ⟨ys, mapM_eq_ok.mpr hys⟩

/-- A list of steps fails with the fault of the first one that does not succeed. -/
theorem mapM_eq_error {f : α → Except ε β} {xs : List α} {fault : ε} :
    xs.mapM f = .error fault ↔ ∃ before x after, xs = before ++ x :: after ∧
      (∀ y ∈ before, ∃ b, f y = .ok b) ∧ f x = .error fault := by
  induction xs with
  | nil =>
    refine iff_of_false nofun ?_
    rintro ⟨before, x, after, hsplit, -⟩
    exact List.append_ne_nil_of_right_ne_nil before (List.cons_ne_nil x after) hsplit.symm
  | cons y ys ih =>
    simp only [List.mapM_cons, bind_eq_error, ih, pure_ne_error, and_false, exists_false, or_false]
    constructor
    · rintro (hy | ⟨b, hy, before, x, after, rfl, hbefore, hx⟩)
      · exact ⟨[], y, ys, rfl, fun _ h => absurd h List.not_mem_nil, hy⟩
      · exact ⟨y :: before, x, after, rfl, List.forall_mem_cons.mpr ⟨⟨b, hy⟩, hbefore⟩, hx⟩
    · rintro ⟨before, x, after, hsplit, hbefore, hx⟩
      cases before with
      | nil =>
        obtain ⟨rfl, -⟩ := List.cons.inj hsplit
        exact Or.inl hx
      | cons z before =>
        obtain ⟨rfl, rfl⟩ := List.cons.inj hsplit
        obtain ⟨⟨b, hy⟩, hbefore⟩ := List.forall_mem_cons.mp hbefore
        exact Or.inr ⟨b, hy, before, x, after, rfl, hbefore, hx⟩

/-- A list of checks passes exactly when each of them does. -/
theorem forM_eq_ok {f : α → Except ε Unit} {xs : List α} :
    xs.forM f = .ok () ↔ ∀ x ∈ xs, f x = .ok () := by
  induction xs with
  | nil => exact ⟨fun _ x hx => absurd hx List.not_mem_nil, fun _ => rfl⟩
  | cons x xs ih =>
    show (f x >>= fun _ => xs.forM f) = .ok () ↔ _
    rw [bind_eq_ok, List.forall_mem_cons, ← ih]
    constructor
    · rintro ⟨u, hx, hxs⟩
      exact ⟨hx, hxs⟩
    · rintro ⟨hx, hxs⟩
      exact ⟨(), hx, hxs⟩

/-- A list of checks fails with the fault of the first one that does not pass. -/
theorem forM_eq_error {f : α → Except ε Unit} {xs : List α} {fault : ε} :
    xs.forM f = .error fault ↔ ∃ before x after, xs = before ++ x :: after ∧
      (∀ y ∈ before, f y = .ok ()) ∧ f x = .error fault := by
  induction xs with
  | nil =>
    refine iff_of_false nofun ?_
    rintro ⟨before, x, after, hsplit, -⟩
    exact List.append_ne_nil_of_right_ne_nil before (List.cons_ne_nil x after) hsplit.symm
  | cons y ys ih =>
    show (f y >>= fun _ => ys.forM f) = .error fault ↔ _
    rw [bind_eq_error, ih]
    constructor
    · rintro (hy | ⟨⟨⟩, hy, before, x, after, rfl, hbefore, hx⟩)
      · exact ⟨[], y, ys, rfl, fun _ h => absurd h List.not_mem_nil, hy⟩
      · exact ⟨y :: before, x, after, rfl, List.forall_mem_cons.mpr ⟨hy, hbefore⟩, hx⟩
    · rintro ⟨before, x, after, hsplit, hbefore, hx⟩
      cases before with
      | nil =>
        obtain ⟨rfl, -⟩ := List.cons.inj hsplit
        exact Or.inl hx
      | cons z before =>
        obtain ⟨rfl, rfl⟩ := List.cons.inj hsplit
        obtain ⟨hy, hbefore⟩ := List.forall_mem_cons.mp hbefore
        exact Or.inr ⟨(), hy, before, x, after, rfl, hbefore, hx⟩

/-! ## Two runs -/

/-- Two steps fail with the same fault, or succeed with results that belong together. -/
inductive SameOutcome (R : α → β → Prop) : Except ε α → Except ε β → Prop
  | error (fault : ε) : SameOutcome R (.error fault) (.error fault)
  | ok {a : α} {b : β} (h : R a b) : SameOutcome R (.ok a) (.ok b)

theorem SameOutcome.refl {R : α → α → Prop} (hR : ∀ a, R a a) (x : Except ε α) : SameOutcome R x x := by
  cases x with
  | error fault => exact .error fault
  | ok a => exact .ok (hR a)

theorem SameOutcome.eq {x y : Except ε α} (h : SameOutcome Eq x y) : x = y := by
  cases h with
  | error fault => rfl
  | ok h => rw [h]

/-- Steps in a row have the same outcome if they go on alike from results that belong together. -/
theorem SameOutcome.bind {R : α → β → Prop} {S : γ → δ → Prop} {x : Except ε α} {y : Except ε β}
    {f : α → Except ε γ} {g : β → Except ε δ} (h : SameOutcome R x y)
    (hfg : ∀ a b, R a b → SameOutcome S (f a) (g b)) : SameOutcome S (x >>= f) (y >>= g) := by
  cases h with
  | error fault => exact .error fault
  | ok h => exact hfg _ _ h

/-- What is made of results that belong together belongs together if it is made alike. -/
theorem SameOutcome.map {R : α → β → Prop} {S : γ → δ → Prop} {x : Except ε α} {y : Except ε β}
    {f : α → γ} {g : β → δ} (h : SameOutcome R x y) (hfg : ∀ a b, R a b → S (f a) (g b)) :
    SameOutcome S (x.map f) (y.map g) := by
  cases h with
  | error fault => exact .error fault
  | ok h => exact .ok (hfg _ _ h)

theorem SameOutcome.mono {R S : α → β → Prop} {x : Except ε α} {y : Except ε β}
    (h : SameOutcome R x y) (hRS : ∀ a b, R a b → S a b) : SameOutcome S x y := by
  cases h with
  | error fault => exact .error fault
  | ok h => exact .ok (hRS _ _ h)

/-- Lists of steps have the same outcome if each of the steps has. -/
theorem SameOutcome.mapM {R : β → γ → Prop} {f : α → Except ε β} {g : α → Except ε γ}
    (hfg : ∀ x, SameOutcome R (f x) (g x)) (xs : List α) :
    SameOutcome (List.Forall₂ R) (xs.mapM f) (xs.mapM g) := by
  induction xs with
  | nil => exact .ok .nil
  | cons x xs ih =>
    rw [List.mapM_cons, List.mapM_cons]
    refine (hfg x).bind fun b c hx => ih.bind fun bs cs hxs => ?_
    exact .ok (.cons hx hxs)

/-- Loops over one list have the same outcome if each round keeps what has been gathered so far together. -/
theorem SameOutcome.foldlM {R : β → γ → Prop} {f : β → α → Except ε β} {g : γ → α → Except ε γ}
    (hfg : ∀ b c x, R b c → SameOutcome R (f b x) (g c x)) {b : β} {c : γ} (h : R b c) (xs : List α) :
    SameOutcome R (xs.foldlM f b) (xs.foldlM g c) := by
  induction xs generalizing b c with
  | nil => exact .ok h
  | cons x xs ih =>
    rw [List.foldlM_cons, List.foldlM_cons]
    exact (hfg b c x h).bind fun b c h => ih h

end DottedQuery
