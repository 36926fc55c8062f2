import ProxyCatalog.Text.Fold

/-!
# Folding twice

Folding a folded name changes nothing: `lower_lower`. The reason is in the case table, where no run
of letters covers an image of a run; that is checked run against run (`runs_apart`), by comparing
end points and, where a run of every other letter meets another, parities.
-/

namespace ProxyCatalog

namespace Text

namespace CaseRun

/-- The image of the first letter of the run. -/
def lowest (r : CaseRun) : Nat :=
  ((r.first : Int) + r.shift).toNat

/-- The image of the last letter of the run. -/
def highest (r : CaseRun) : Nat :=
  ((r.last : Int) + r.shift).toNat

/-- The images of `r` lie outside the letters from `a` to `b`. -/
def outside (r : CaseRun) (a b : Nat) : Bool :=
  Nat.blt r.highest a || Nat.blt b r.lowest

/-- The images of `r` lie outside `q`, or both skip every other letter and are out of step. -/
def apart (r q : CaseRun) : Bool :=
  r.outside q.first q.last ||
    (Nat.beq q.stride 2 && (Nat.beq r.stride 2 || Nat.beq r.first r.last)
      && Nat.beq ((r.lowest + q.first) % 2) 1)

/-- The run is in order, its images are letters, and among them is neither an ASCII capital nor the
capital I with a dot. -/
def regular (r : CaseRun) : Bool :=
  Nat.ble r.first r.last && decide (0 ≤ (r.first : Int) + r.shift)
    && (Nat.blt r.highest 0xD800 || (Nat.blt 0xDFFF r.lowest && Nat.blt r.highest 0x110000))
    && r.outside 0 0x5A && r.outside 0x130 0x130

end CaseRun

private theorem runs_apart : (lowerRuns.all fun r => lowerRuns.all r.apart) = true := by
  decide +kernel

private theorem runs_regular : (lowerRuns.all CaseRun.regular) = true := by
  decide +kernel

private theorem toNat_ofNat {n : Nat} (h : n.isValidChar) : (Char.ofNat n).toNat = n := by
  rw [Char.ofNat, dif_pos h]; rfl

private theorem toLower_of_not_upper {c : Char} (h : ¬ (c.val ≥ 'A'.val ∧ c.val ≤ 'Z'.val)) :
    c.toLower = c :=
  dif_neg h

private theorem toLower_toLower (c : Char) : c.toLower.toLower = c.toLower := by
  by_cases h : c.val ≥ 'A'.val ∧ c.val ≤ 'Z'.val
  · have hc : c.toNat ≤ 90 := UInt32.le_iff_toNat_le.1 h.2
    have key : ∀ n ≤ 90, (Char.ofNat n).toLower.toLower = (Char.ofNat n).toLower := by
      decide +kernel
    have := key c.toNat hc
    rwa [Char.ofNat_toNat] at this
  · rw [toLower_of_not_upper h, toLower_of_not_upper h]

/-- The image of a letter, with the run it comes from. -/
private theorem exists_run {c n : Nat} (h : shiftBy lowerRuns c = some n) :
    ∃ r ∈ lowerRuns, r.first ≤ c ∧ c ≤ r.last ∧ (c - r.first) % r.stride = 0 ∧
      n = ((c : Int) + r.shift).toNat ∧ 0 ≤ (r.first : Int) + r.shift := by
  obtain ⟨r, hr, rfl⟩ := Option.map_eq_some_iff.1 h
  have hrm := List.mem_of_find?_eq_some hr
  have hrc := List.find?_some hr
  have hreg := List.all_eq_true.1 runs_regular r hrm
  simp only [CaseRun.covers, CaseRun.regular, Bool.and_eq_true, decide_eq_true_eq,
    beq_iff_eq] at hrc hreg
  exact ⟨r, hrm, hrc.1.1, hrc.1.2, hrc.2, rfl, hreg.1.1.1.2⟩

/-- A letter that is the image of another one is its own image. -/
theorem shiftBy_lowerRuns_eq_none {c n : Nat} (h : shiftBy lowerRuns c = some n) :
    shiftBy lowerRuns n = none := by
  obtain ⟨r, hr, h1, h2, h3, rfl, h4⟩ := exists_run h
  simp only [shiftBy, Option.map_eq_none_iff, List.find?_eq_none]
  intro q hq hqc
  have hapart := List.all_eq_true.1 (List.all_eq_true.1 runs_apart r hr) q hq
  simp only [CaseRun.apart, CaseRun.outside, CaseRun.covers, CaseRun.lowest, CaseRun.highest,
    Bool.and_eq_true, Bool.or_eq_true, Nat.blt_eq, Nat.beq_eq, decide_eq_true_eq,
    beq_iff_eq] at hapart hqc
  rcases hapart with h | ⟨⟨hq2, h⟩, hodd⟩
  · omega
  · rw [hq2] at hqc
    rcases h with hr2 | hone
    · rw [hr2] at h3; omega
    · omega

/-- Images are letters, and none of them is an ASCII capital or the capital I with a dot. -/
private theorem image_regular {c n : Nat} (h : shiftBy lowerRuns c = some n) :
    n.isValidChar ∧ 0x5A < n ∧ n ≠ 0x130 := by
  obtain ⟨r, hr, h1, h2, h3, rfl, h4⟩ := exists_run h
  have hreg := List.all_eq_true.1 runs_regular r hr
  simp only [CaseRun.regular, CaseRun.outside, CaseRun.lowest, CaseRun.highest,
    Bool.and_eq_true, Bool.or_eq_true, Nat.blt_eq, Nat.ble_eq, decide_eq_true_eq] at hreg
  simp only [Nat.isValidChar]
  omega

/-- The lower-case form of a letter is settled: each of its letters is its own lower-case form, and
none is a capital sigma. -/
theorem lowerLetters_settled {c d : Char} (h : d ∈ lowerLetters c) :
    lowerLetters d = [d] ∧ d ≠ 'Σ' := by
  -- ASCII letters.
  by_cases hc : c.toNat < 0x80
  · rw [lowerLetters, if_pos hc] at h
    obtain rfl := List.mem_singleton.1 h
    have hlow : c.toLower.toNat < 0x80 := by
      have key : ∀ n < 0x80, (Char.ofNat n).toLower.toNat < 0x80 := by decide +kernel
      have := key c.toNat hc
      rwa [Char.ofNat_toNat] at this
    refine ⟨by rw [lowerLetters, if_pos hlow, toLower_toLower], fun e => ?_⟩
    rw [e] at hlow
    exact absurd hlow (by decide)
  -- The capital I with a dot has two letters for its lower-case form.
  by_cases hdot : c.toNat = 0x130
  · rw [lowerLetters, if_neg hc, if_pos hdot] at h
    rcases List.mem_cons.1 h with rfl | h
    · decide +kernel
    · obtain rfl := List.mem_singleton.1 h
      decide +kernel
  -- All others are looked up in the case table.
  rw [lowerLetters, if_neg hc, if_neg hdot] at h
  cases hs : shiftBy lowerRuns c.toNat with
  | none =>
    rw [hs] at h
    obtain rfl := List.mem_singleton.1 h
    refine ⟨by rw [lowerLetters, if_neg hc, if_neg hdot, hs], ?_⟩
    rintro rfl
    exact absurd hs (by decide +kernel)
  | some n =>
    rw [hs] at h
    obtain rfl := List.mem_singleton.1 h
    obtain ⟨hv, ha, hd⟩ := image_regular hs
    have hnone := shiftBy_lowerRuns_eq_none hs
    have hnat := toNat_ofNat hv
    refine ⟨?_, fun e => ?_⟩
    · rw [lowerLetters, hnat, if_neg hd, hnone]
      split
      · rw [toLower_of_not_upper]
        intro hu
        have : (Char.ofNat n).toNat ≤ 90 := UInt32.le_iff_toNat_le.1 hu.2
        omega
      · rfl
    · rw [e] at hnat
      subst hnat
      exact absurd hnone (by decide +kernel)

/-- Letters that are their own lower-case form, without a capital sigma among them. -/
private theorem lowerFrom_of_settled {cs : List Char}
    (h : ∀ c ∈ cs, lowerLetters c = [c] ∧ c ≠ 'Σ') (before : List Char) :
    lowerFrom before cs = cs := by
  induction cs generalizing before with
  | nil => rfl
  | cons c rest ih =>
    obtain ⟨h1, h2⟩ := h c (by simp)
    rw [lowerFrom, if_neg h2, h1, ih fun d hd => h d (by simp [hd])]
    rfl

private theorem lowerFrom_settled (before cs : List Char) :
    ∀ d ∈ lowerFrom before cs, lowerLetters d = [d] ∧ d ≠ 'Σ' := by
  induction cs generalizing before with
  | nil => intro d hd; cases hd
  | cons c rest ih =>
    intro d hd
    rw [lowerFrom, List.mem_append] at hd
    rcases hd with hd | hd
    · split at hd
      · split at hd
        · obtain rfl := List.mem_singleton.1 hd; decide +kernel
        · obtain rfl := List.mem_singleton.1 hd; decide +kernel
      · exact lowerLetters_settled hd
    · exact ih _ d hd

/-- **Folding twice** is folding once. -/
@[simp] theorem lower_lower (s : String) : lower (lower s) = lower s := by
  rw [lower, lower, String.toList_ofList, lowerFrom_of_settled (lowerFrom_settled _ _)]

end Text

end ProxyCatalog
