/-!
# Results

An action ends with a value or with a fault. These are the laws by which results are taken apart
again: a result that is put together from others is a value just where they are, and so a run that
succeeded has gone through every step.

* `Except.bind_eq_ok`, `Except.map_eq_ok`, `Except.mapError_eq_ok`: what a value came from.
* `Except.check_eq_ok`, `Except.forM_eq_ok`: checks, one by one.
* `Except.mapM_eq_ok`, `Except.mapM_eq_error`: a list of results, by position.
* `Except.Alike`: two results that are the same fault or related values.
-/

namespace ProxyCatalog

namespace Except

/-! ### One result -/

section

variable {ε ε' α β : Type} {x : Except ε α} {a : α}

/-- What comes after a value is run with it. -/
theorem ok_bind (a : α) (f : α → Except ε β) : (Except.ok a >>= f) = f a := rfl

/-- A value at the end of two steps came from a value of the first. -/
theorem bind_eq_ok {f : α → Except ε β} {b : β} (h : (x >>= f) = .ok b) :
    ∃ a, x = .ok a ∧ f a = .ok b := by
  cases x with
  | error e => cases h
  | ok a => exact ⟨a, rfl, h⟩

/-- A value after a map came from a value before it. -/
theorem map_eq_ok {f : α → β} {b : β} (h : x.map f = .ok b) : ∃ a, x = .ok a ∧ f a = b := by
  cases x with
  | error e => cases h
  | ok a => exact ⟨a, rfl, Except.ok.inj h⟩

/-- There is a value after a map if there is one before it. -/
theorem map_isOk_iff {f : α → β} : (∃ b, x.map f = .ok b) ↔ ∃ a, x = .ok a := by
  constructor
  · rintro ⟨b, h⟩
    obtain ⟨a, ha, -⟩ := map_eq_ok h
    exact ⟨a, ha⟩
  · rintro ⟨a, rfl⟩
    exact ⟨f a, rfl⟩

/-- Results that are the same up to `f` are the same fault or values that are the same up to `f`. -/
theorem map_eq_map {y : Except ε α} {f : α → β} (h : x.map f = y.map f) :
    (∃ e, x = .error e ∧ y = .error e) ∨ ∃ a b, x = .ok a ∧ y = .ok b ∧ f a = f b := by
  cases x with
  | error e =>
    cases y with
    | error e' => exact .inl ⟨e, rfl, congrArg _ (Except.error.inj h).symm⟩
    | ok b => cases h
  | ok a =>
    cases y with
    | error e' => cases h
    | ok b => exact .inr ⟨a, b, rfl, rfl, Except.ok.inj h⟩

/-- Faults and values are mapped in any order. -/
theorem mapError_map (f : ε → ε') (g : α → β) (x : Except ε α) :
    (x.map g).mapError f = (x.mapError f).map g := by
  cases x <;> rfl

/-- To rename faults changes no value. -/
theorem mapError_eq_ok {f : ε → ε'} : x.mapError f = .ok a ↔ x = .ok a := by
  cases x with
  | error e => exact iff_of_false nofun nofun
  | ok b => exact ⟨fun h => by cases h; rfl, fun h => by cases h; rfl⟩

/-- A value is what remains when faults are forgotten. -/
theorem toOption_eq_some : x.toOption = some a ↔ x = .ok a := by
  cases x with
  | error e => exact iff_of_false nofun nofun
  | ok b => exact ⟨fun h => congrArg Except.ok (Option.some.inj h), fun h => by cases h; rfl⟩

/-- A run with a value succeeds; in this form it can be checked by evaluation. -/
theorem run_eq_ok {p : Except ε α × β} (h : p.1.toOption = some a) : p = (.ok a, p.2) := by
  obtain ⟨r, b⟩ := p
  obtain rfl : r = .ok a := toOption_eq_some.1 h
  rfl

end

/-! ### Checks -/

section

variable {ε α β : Type}

/-- A check succeeds when its condition holds. -/
theorem check_eq_ok {p : Prop} [Decidable p] {e : ε} :
    (if p then .ok ⟨⟩ else .error e : Except ε Unit) = .ok ⟨⟩ ↔ p := by
  by_cases hp : p
  · rw [if_pos hp]
    exact iff_of_true rfl hp
  · rw [if_neg hp]
    exact iff_of_false nofun hp

/-- A check and what follows it succeed when both do. -/
theorem check_bind_eq_ok {x : Except ε Unit} {y : Except ε β} {b : β} :
    (x >>= fun _ => y) = .ok b ↔ x = .ok ⟨⟩ ∧ y = .ok b := by
  cases x with
  | error e => exact iff_of_false nofun fun h => by cases h.1
  | ok u => exact ⟨fun h => ⟨rfl, h⟩, And.right⟩

/-- Checks in a row succeed when each does. -/
theorem forM_eq_ok {f : α → Except ε Unit} {l : List α} :
    l.forM f = .ok ⟨⟩ ↔ ∀ a ∈ l, f a = .ok ⟨⟩ := by
  induction l with
  | nil => exact ⟨fun _ _ hmem => absurd hmem List.not_mem_nil, fun _ => rfl⟩
  | cons a l ih =>
    rw [List.forall_mem_cons, ← ih]
    exact check_bind_eq_ok

end

/-! ### Lists of results -/

section

variable {ε α β : Type} {f : α → Except ε β}

/-- Results in a row succeed when each does. -/
theorem mapM_eq_ok {l : List α} {bs : List β} :
    l.mapM f = .ok bs ↔ bs.length = l.length ∧
      ∀ (i : Nat) (a : α), l[i]? = some a → ∃ b, bs[i]? = some b ∧ f a = .ok b := by
  induction l generalizing bs with
  | nil =>
    rw [List.mapM_nil, List.length_nil, List.length_eq_zero_iff]
    exact ⟨fun h => ⟨(Except.ok.inj h).symm, nofun⟩, fun h => congrArg Except.ok h.1.symm⟩
  | cons a l ih =>
    rw [List.mapM_cons]
    constructor
    · intro h
      obtain ⟨b, hb, h⟩ := bind_eq_ok h
      obtain ⟨bs', hbs, h⟩ := bind_eq_ok h
      cases Except.ok.inj h
      obtain ⟨hlength, hget⟩ := ih.1 hbs
      refine ⟨congrArg (· + 1) hlength, fun i a' ha' => ?_⟩
      cases i with
      | zero => exact ⟨b, rfl, Option.some.inj ha' ▸ hb⟩
      | succ i => exact hget i a' ha'
    · rintro ⟨hlength, hget⟩
      obtain ⟨b, bs, rfl⟩ := List.exists_cons_of_length_eq_add_one hlength
      obtain ⟨b', hb', hb⟩ := hget 0 a rfl
      cases Option.some.inj hb'
      have hbs := ih.2 ⟨Nat.succ.inj hlength, fun i a' => hget (i + 1) a'⟩
      rw [hb, ok_bind, hbs]
      rfl

/-- Results in a row fail with the first fault. -/
theorem mapM_eq_error {l : List α} {e : ε} :
    l.mapM f = .error e ↔ ∃ (i : Nat) (a : α), l[i]? = some a ∧ f a = .error e ∧
      ∀ j a', j < i → l[j]? = some a' → ∃ b, f a' = .ok b := by
  induction l with
  | nil =>
    rw [List.mapM_nil]
    refine iff_of_false nofun ?_
    rintro ⟨i, a, hget, -⟩
    cases hget
  | cons a l ih =>
    rw [List.mapM_cons]
    cases hf : f a with
    | error e' =>
      constructor
      · intro h
        have hfault : e' = e := Except.error.inj h
        exact ⟨0, a, rfl, hfault ▸ hf, fun j _ hj => absurd hj (Nat.not_lt_zero j)⟩
      · rintro ⟨i, a', hget, hfault, hbefore⟩
        cases i with
        | zero =>
          cases Option.some.inj hget
          exact congrArg Except.error (Except.error.inj (hf.symm.trans hfault))
        | succ i =>
          obtain ⟨b, hb⟩ := hbefore 0 a i.succ_pos rfl
          cases hf.symm.trans hb
    | ok b =>
      have hrest : (Except.ok b >>= fun b => l.mapM f >>= fun bs => pure (b :: bs)) = .error e ↔
          l.mapM f = .error e := by
        rw [ok_bind]
        cases l.mapM f with
        | error e' => rfl
        | ok bs => exact iff_of_false nofun nofun
      rw [hrest, ih]
      constructor
      · rintro ⟨i, a', hget, hfault, hbefore⟩
        refine ⟨i + 1, a', hget, hfault, fun j a'' hj hget' => ?_⟩
        cases j with
        | zero => exact ⟨b, Option.some.inj hget' ▸ hf⟩
        | succ j => exact hbefore j a'' (Nat.lt_of_succ_lt_succ hj) hget'
      · rintro ⟨i, a', hget, hfault, hbefore⟩
        cases i with
        | zero =>
          cases Option.some.inj hget
          cases hf.symm.trans hfault
        | succ i =>
          exact ⟨i, a', hget, hfault, fun j a'' hj hget' =>
            hbefore (j + 1) a'' (Nat.succ_lt_succ hj) hget'⟩

end

/-! ### Two results side by side -/

/-- Both fail, with the same fault, or both succeed, with related results. -/
inductive Alike {ε α β : Type} (R : α → β → Prop) : Except ε α → Except ε β → Prop
  | ok {a : α} {b : β} (h : R a b) : Alike R (.ok a) (.ok b)
  | error (e : ε) : Alike R (.error e) (.error e)

namespace Alike

variable {ε α β γ δ : Type} {R S : α → β → Prop} {T : γ → δ → Prop} {x : Except ε α}
  {y : Except ε β}

/-- The same result. -/
theorem of_eq {x y : Except ε α} (h : x = y) : Alike Eq x y := by
  subst h
  cases x with
  | ok a => exact .ok rfl
  | error e => exact .error e

/-- Results that are the same up to `f`. -/
theorem of_map_eq {x y : Except ε α} {f : α → β} (h : x.map f = y.map f) :
    Alike (fun a b => x = .ok a ∧ f a = f b) x y := by
  rcases map_eq_map h with ⟨e, rfl, rfl⟩ | ⟨a, b, rfl, rfl, hab⟩
  · exact .error e
  · exact .ok ⟨rfl, hab⟩

/-- A weaker relation of the values. -/
theorem mono (h : Alike R x y) (hRS : ∀ a b, R a b → S a b) : Alike S x y := by
  cases h with
  | ok hab => exact .ok (hRS _ _ hab)
  | error e => exact .error e

/-- Steps that are alike after results that are alike. -/
theorem bind {f : α → Except ε γ} {g : β → Except ε δ} (h : Alike R x y)
    (hfg : ∀ a b, R a b → Alike T (f a) (g b)) : Alike T (x >>= f) (y >>= g) := by
  cases h with
  | ok hab => exact hfg _ _ hab
  | error e => exact .error e

end Alike

end Except

end ProxyCatalog
