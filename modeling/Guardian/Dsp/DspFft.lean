import Mathlib.Analysis.SpecialFunctions.Trigonometric.Basic
import Mathlib.Tactic.IntervalCases
import Guardian.Lib.Fourier
import Guardian.Lib.Word

namespace Guardian.Dsp

open Word

def dspFftSize : ℕ := 64

structure FftArrays (ρ : Type) where
  real : ℕ → ρ
  imag : ℕ → ρ

/-- `guardian_dsp_swap_float`. -/
def dspSwapFloat {ρ : Type} (cells : ℕ → ρ) (left right : ℕ) : ℕ → ρ :=
  Function.update (Function.update cells left (cells right)) right (cells left)

/-- The walk down the carry chain. The bit is zero after sixteen shifts at the latest, and ends the walk. -/
def carryChain : ℕ → U16 → U16 → U16 × U16
  | 0, reversed, bit => (reversed, bit)
  | shifts + 1, reversed, bit =>
    if reversed &&& bit ≠ 0 then carryChain shifts (reversed ^^^ bit) (bit >>> 1) else (reversed, bit)

def nextReversed (reversed : U16) : U16 :=
  let (cleared, bit) := carryChain 16 reversed (BitVec.ofNat 16 dspFftSize >>> 1)
  cleared ^^^ bit

/-- The pairs of indices that the bit reversal visits, in order. -/
def reversalPairs : List (ℕ × ℕ) :=
  ((List.range' 1 (dspFftSize - 1)).foldl (fun (pairs, reversed) index =>
    let reversed := nextReversed reversed
    (pairs ++ [(index, reversed.toNat)], reversed)) (([], 0) : List (ℕ × ℕ) × U16)).1

def dspReverseCells {ρ : Type} (cells : ℕ → ρ) : ℕ → ρ :=
  reversalPairs.foldl (fun cells (index, reversed) =>
    if index < reversed then dspSwapFloat cells index reversed else cells) cells

/-- `guardian_dsp_bit_reverse`. -/
def dspBitReverse {ρ : Type} (arrays : FftArrays ρ) : FftArrays ρ :=
  ⟨dspReverseCells arrays.real, dspReverseCells arrays.imag⟩

/-- The even index, the odd index and the twiddle index of every butterfly of a stage, in order. -/
def stageIndices (length : ℕ) : List (ℕ × ℕ × ℕ) :=
  (List.range (dspFftSize / length)).flatMap fun group =>
    (List.range (length >>> 1)).map fun offset =>
      let base := group * length
      (base + offset, base + offset + length >>> 1, offset * (dspFftSize / length))

def stageLengths : List ℕ := (List.range 6).map fun stage => 2 <<< stage

section arrays

variable {ρ : Type} [Add ρ] [Sub ρ] [Mul ρ]

def dspButterfly (twiddleReal twiddleImag : ℕ → ρ) (arrays : FftArrays ρ) (indices : ℕ × ℕ × ℕ) : FftArrays ρ :=
  let (even, odd, twiddle) := indices
  let wr := twiddleReal twiddle
  let wi := twiddleImag twiddle
  let oddReal := arrays.real odd * wr - arrays.imag odd * wi
  let oddImag := arrays.real odd * wi + arrays.imag odd * wr
  let evenReal := arrays.real even
  let evenImag := arrays.imag even
  { real := Function.update (Function.update arrays.real even (evenReal + oddReal)) odd (evenReal - oddReal)
    imag := Function.update (Function.update arrays.imag even (evenImag + oddImag)) odd (evenImag - oddImag) }

/-- `guardian_dsp_fft64`, for twiddle tables. -/
def dspFft64 (twiddleReal twiddleImag : ℕ → ρ) (arrays : FftArrays ρ) : FftArrays ρ :=
  stageLengths.foldl (fun arrays length =>
    (stageIndices length).foldl (dspButterfly twiddleReal twiddleImag) arrays) (dspBitReverse arrays)

end arrays

def reverse6 (index : ℕ) : ℕ :=
  index % 2 * 32 + index / 2 % 2 * 16 + index / 4 % 2 * 8 + index / 8 % 2 * 4 + index / 16 % 2 * 2 + index / 32 % 2

theorem dspSwapFloat_comp {ρ : Type} (cells : ℕ → ρ) (places : ℕ → ℕ) (left right : ℕ) :
    dspSwapFloat (cells ∘ places) left right = cells ∘ dspSwapFloat places left right := by
  unfold dspSwapFloat
  rw [Function.comp_update, Function.comp_update]
  rfl

theorem dspReverseCells_comp {ρ : Type} (cells : ℕ → ρ) (pairs : List (ℕ × ℕ)) (places : ℕ → ℕ) :
    pairs.foldl (fun cells (index, reversed) =>
        if index < reversed then dspSwapFloat cells index reversed else cells) (cells ∘ places) =
      cells ∘ pairs.foldl (fun cells (index, reversed) =>
        if index < reversed then dspSwapFloat cells index reversed else cells) places := by
  induction pairs generalizing places with
  | nil => rfl
  | cons pair pairs ih =>
    rw [List.foldl_cons, List.foldl_cons, ← ih]
    congr 1
    dsimp only
    split_ifs
    · exact dspSwapFloat_comp cells places pair.1 pair.2
    · rfl

theorem dspReverseCells_eq {ρ : Type} (cells : ℕ → ρ) {index : ℕ} (inside : index < dspFftSize) :
    dspReverseCells cells index = cells (reverse6 index) := by
  have places : ∀ index < dspFftSize, dspReverseCells id index = reverse6 index := by decide +kernel
  have moved := dspReverseCells_comp cells reversalPairs id
  change dspReverseCells cells = cells ∘ dspReverseCells id at moved
  rw [moved, Function.comp_apply, places index inside]

open Fourier

def complexCells (arrays : FftArrays ℝ) (index : ℕ) : ℂ := ⟨arrays.real index, arrays.imag index⟩

/-- One butterfly of the code, with its factor from the tables. -/
noncomputable def complexButterfly (twiddleReal twiddleImag : ℕ → ℝ) (indices : ℕ × ℕ × ℕ) : Butterfly ℂ :=
  ⟨indices.1, indices.2.1, ⟨twiddleReal indices.2.2, twiddleImag indices.2.2⟩⟩

theorem complexCells_butterfly (twiddleReal twiddleImag : ℕ → ℝ) (arrays : FftArrays ℝ) (indices : ℕ × ℕ × ℕ) :
    complexCells (dspButterfly twiddleReal twiddleImag arrays indices) =
      (complexButterfly twiddleReal twiddleImag indices).apply (complexCells arrays) := by
  obtain ⟨even, odd, twiddle⟩ := indices
  ext index
  simp only [complexCells, dspButterfly, Butterfly.apply, complexButterfly]
  by_cases isOdd : index = odd
  · subst isOdd
    simp only [Function.update_self]
    apply Complex.ext
    · simp [mul_comm]
    · simp [mul_comm, add_comm]
  · rw [Function.update_of_ne isOdd, Function.update_of_ne isOdd, Function.update_of_ne isOdd]
    by_cases isEven : index = even
    · subst isEven
      simp only [Function.update_self]
      apply Complex.ext
      · simp [mul_comm]
      · simp [mul_comm, add_comm]
    · rw [Function.update_of_ne isEven, Function.update_of_ne isEven, Function.update_of_ne isEven]
      rfl

theorem complexCells_stage (twiddleReal twiddleImag : ℕ → ℝ) (arrays : FftArrays ℝ) (indices : List (ℕ × ℕ × ℕ)) :
    complexCells (indices.foldl (dspButterfly twiddleReal twiddleImag) arrays) =
      (indices.map (complexButterfly twiddleReal twiddleImag)).foldl Butterfly.apply (complexCells arrays) := by
  induction indices generalizing arrays with
  | nil => rfl
  | cons first rest ih => rw [List.foldl_cons, ih, complexCells_butterfly, List.map_cons, List.foldl_cons]

theorem complexCells_reverse (arrays : FftArrays ℝ) {index : ℕ} (inside : index < dspFftSize) :
    complexCells (dspBitReverse arrays) index = complexCells arrays (reverse6 index) := by
  unfold complexCells dspBitReverse
  dsimp only
  rw [dspReverseCells_eq _ inside, dspReverseCells_eq _ inside]

/-- What the loops visit in one stage: cells that differ, and every group in step with the reversal. -/
theorem stage_indices {stage : ℕ} (inside : stage < 6) :
    ((stageIndices (2 <<< stage)).flatMap fun indices => [indices.1, indices.2.1]).Nodup ∧
    ∀ group < 64 / 2 ^ (stage + 1),
      reverse6 (group * 2 ^ (stage + 1) + 2 ^ stage) =
        reverse6 (group * 2 ^ (stage + 1)) + 64 / 2 ^ (stage + 1) ∧
      ∀ k < 2 ^ stage, k * (64 / 2 ^ (stage + 1)) < 32 ∧
        (group * 2 ^ (stage + 1) + k, group * 2 ^ (stage + 1) + k + 2 ^ stage, k * (64 / 2 ^ (stage + 1))) ∈
          stageIndices (2 <<< stage) := by
  have apart : ∀ stage < 6, ((stageIndices (2 <<< stage)).flatMap fun indices => [indices.1, indices.2.1]).Nodup := by
    decide +kernel
  have reversed : ∀ stage < 6, ∀ group < 64 / 2 ^ (stage + 1),
      reverse6 (group * 2 ^ (stage + 1) + 2 ^ stage) =
        reverse6 (group * 2 ^ (stage + 1)) + 64 / 2 ^ (stage + 1) := by decide +kernel
  have tabled : ∀ stage < 6, ∀ k < 2 ^ stage, k * (64 / 2 ^ (stage + 1)) < 32 := by decide +kernel
  have length : 2 <<< stage = 2 ^ (stage + 1) := by interval_cases stage <;> rfl
  have half : 2 ^ (stage + 1) >>> 1 = 2 ^ stage := by interval_cases stage <;> rfl
  refine ⟨apart stage inside, fun group inGroups => ⟨reversed stage inside group inGroups, fun k small =>
    ⟨tabled stage inside k small, ?_⟩⟩⟩
  rw [stageIndices, length, half]
  exact List.mem_flatMap.mpr ⟨group, List.mem_range.mpr inGroups, List.mem_map.mpr ⟨k, List.mem_range.mpr small, rfl⟩⟩

/-- Every group holds the transform of the values that its cells were taken from. -/
def Transformed (root : ℂ) (values : ℕ → ℂ) (stage : ℕ) (cells : ℕ → ℂ) : Prop :=
  ∀ group < 64 / 2 ^ stage, ∀ k < 2 ^ stage, cells (group * 2 ^ stage + k) =
    transform (root ^ (64 / 2 ^ stage)) (2 ^ stage)
      (fun n => values (reverse6 (group * 2 ^ stage) + n * (64 / 2 ^ stage))) k

theorem Transformed.next {root : ℂ} (half : root ^ 32 = -1) {values cells : ℕ → ℂ} {twiddleReal twiddleImag : ℕ → ℝ}
    (exact : ∀ index < 32, (⟨twiddleReal index, twiddleImag index⟩ : ℂ) = root ^ index) {stage : ℕ} (inside : stage < 6)
    (transformed : Transformed root values stage cells) :
    Transformed root values (stage + 1)
      (((stageIndices (2 <<< stage)).map (complexButterfly twiddleReal twiddleImag)).foldl Butterfly.apply cells) := by
  obtain ⟨apart, groups⟩ := stage_indices inside
  have distinct : (touched ((stageIndices (2 <<< stage)).map (complexButterfly twiddleReal twiddleImag))).Nodup := by
    rw [touched, List.flatMap_map]
    exact apart
  have stride : 64 / 2 ^ stage = 2 * (64 / 2 ^ (stage + 1)) := by
    interval_cases stage <;> rfl
  have minus : (root ^ (64 / 2 ^ (stage + 1))) ^ 2 ^ stage = -1 := by
    rw [← pow_mul, show 64 / 2 ^ (stage + 1) * 2 ^ stage = 32 by interval_cases stage <;> rfl, half]
  have square : root ^ (64 / 2 ^ stage) = (root ^ (64 / 2 ^ (stage + 1))) ^ 2 := by
    rw [stride, Nat.mul_comm, pow_mul]
  intro group inGroups k inGroup
  obtain ⟨reversed, butterflies⟩ := groups group inGroups
  -- The two halves of the group are groups of the stage before.
  have evens (k : ℕ) (small : k < 2 ^ stage) : cells (group * 2 ^ (stage + 1) + k) =
      transform ((root ^ (64 / 2 ^ (stage + 1))) ^ 2) (2 ^ stage)
        (fun n => values (reverse6 (group * 2 ^ (stage + 1)) + 2 * n * (64 / 2 ^ (stage + 1)))) k := by
    have first := transformed (2 * group) (by rw [stride]; omega) k small
    rw [square, stride, show 2 * group * 2 ^ stage = group * 2 ^ (stage + 1) by ring] at first
    rw [first]
    congr 1
    funext n
    ring_nf
  have odds (k : ℕ) (small : k < 2 ^ stage) : cells (group * 2 ^ (stage + 1) + k + 2 ^ stage) =
      transform ((root ^ (64 / 2 ^ (stage + 1))) ^ 2) (2 ^ stage)
        (fun n => values (reverse6 (group * 2 ^ (stage + 1)) + (2 * n + 1) * (64 / 2 ^ (stage + 1)))) k := by
    have second := transformed (2 * group + 1) (by rw [stride]; omega) k small
    rw [square, stride, show (2 * group + 1) * 2 ^ stage = group * 2 ^ (stage + 1) + 2 ^ stage by ring, reversed] at second
    rw [show group * 2 ^ (stage + 1) + k + 2 ^ stage = group * 2 ^ (stage + 1) + 2 ^ stage + k by ring, second]
    congr 1
    funext n
    ring_nf
  have done (k : ℕ) (small : k < 2 ^ stage) := foldl_apply cells distinct
    (List.mem_map_of_mem (butterflies k small).2)
  have factor (k : ℕ) (small : k < 2 ^ stage) :
      (⟨twiddleReal (k * (64 / 2 ^ (stage + 1))), twiddleImag (k * (64 / 2 ^ (stage + 1)))⟩ : ℂ) =
        (root ^ (64 / 2 ^ (stage + 1))) ^ k := by
    rw [exact _ (butterflies k small).1, ← pow_mul, Nat.mul_comm]
  have doubled : 2 ^ (stage + 1) = 2 * 2 ^ stage := pow_succ' 2 stage
  by_cases small : k < 2 ^ stage
  · have result := (done k small).1
    simp only [complexButterfly] at result
    rw [result, factor k small, evens k small, odds k small, doubled, transform_double, ← doubled]
  · obtain ⟨low, rfl⟩ : ∃ low, k = low + 2 ^ stage := ⟨k - 2 ^ stage, by omega⟩
    have below : low < 2 ^ stage := by omega
    have result := (done low below).2
    simp only [complexButterfly] at result
    rw [← Nat.add_assoc, result, factor low below, evens low below, odds low below, doubled, ← doubled,
      show 2 ^ (stage + 1) = 2 * 2 ^ stage from doubled, transform_half (by rw [← doubled]; exact minus), ← doubled]

theorem Transformed.start (root : ℂ) (arrays : FftArrays ℝ) :
    Transformed root (complexCells arrays) 0 (complexCells (dspBitReverse arrays)) := by
  intro group inGroups k inGroup
  obtain rfl : k = 0 := Nat.lt_one_iff.mp inGroup
  rw [pow_zero, transform_one, Nat.mul_one, Nat.add_zero, Nat.zero_mul, Nat.add_zero]
  exact complexCells_reverse arrays inGroups

theorem Transformed.stages {root : ℂ} (half : root ^ 32 = -1) {twiddleReal twiddleImag : ℕ → ℝ}
    (exact : ∀ index < 32, (⟨twiddleReal index, twiddleImag index⟩ : ℂ) = root ^ index) (arrays : FftArrays ℝ)
    {count : ℕ} (inside : count ≤ 6) :
    Transformed root (complexCells arrays) count (complexCells
      (((List.range count).map fun stage => 2 <<< stage).foldl (fun arrays length =>
        (stageIndices length).foldl (dspButterfly twiddleReal twiddleImag) arrays) (dspBitReverse arrays))) := by
  induction count with
  | zero => exact Transformed.start root arrays
  | succ count ih =>
    rw [List.range_succ, List.map_append, List.foldl_append]
    simp only [List.map_cons, List.map_nil, List.foldl_cons, List.foldl_nil]
    rw [complexCells_stage]
    exact (ih (by omega)).next half exact (by omega)

local instance twiddleTwo : Nat.AtLeastTwo 2 := ⟨by decide⟩
local instance twiddleSixtyFour : Nat.AtLeastTwo 64 := ⟨by decide⟩

noncomputable def exactTwiddleReal (index : ℕ) : ℝ := Real.cos (2 * Real.pi * index / 64)

noncomputable def exactTwiddleImag (index : ℕ) : ℝ := -Real.sin (2 * Real.pi * index / 64)

noncomputable def root64 : ℂ := Complex.exp (-(2 * Real.pi * Complex.I) / 64)

theorem root64_pow (count : ℕ) : root64 ^ count = Complex.exp (-(2 * Real.pi * Complex.I * count) / 64) := by
  rw [root64, ← Complex.exp_nat_mul]
  congr 1
  ring

theorem root64_half : root64 ^ 32 = -1 := by
  rw [root64_pow, show -(2 * Real.pi * Complex.I * (32 : ℕ)) / 64 = -(Real.pi * Complex.I) by push_cast; ring,
    Complex.exp_neg, Complex.exp_pi_mul_I]
  norm_num

theorem exactTwiddle_eq (index : ℕ) : (⟨exactTwiddleReal index, exactTwiddleImag index⟩ : ℂ) = root64 ^ index := by
  have angle : -(2 * Real.pi * Complex.I * index) / 64 = ((-(2 * Real.pi * index / 64) : ℝ) : ℂ) * Complex.I := by
    push_cast
    ring
  rw [root64_pow, angle]
  apply Complex.ext
  · rw [Complex.exp_ofReal_mul_I_re, Real.cos_neg, exactTwiddleReal]
  · rw [Complex.exp_ofReal_mul_I_im, Real.sin_neg, exactTwiddleImag]

/-- Every bin holds its coefficient of the discrete Fourier transform. -/
theorem dspFft64_transform (arrays : FftArrays ℝ) (bin : Fin 64) :
    complexCells (dspFft64 exactTwiddleReal exactTwiddleImag arrays) bin =
      ∑ n : Fin 64, complexCells arrays n * Complex.exp (-(2 * Real.pi * Complex.I * bin * n) / 64) := by
  have transformed := Transformed.stages root64_half (fun index _ => exactTwiddle_eq index) arrays (le_refl 6)
  have whole := transformed 0 (by decide) bin bin.isLt
  rw [Nat.zero_mul, Nat.zero_add] at whole
  change complexCells (dspFft64 exactTwiddleReal exactTwiddleImag arrays) bin = _ at whole
  rw [whole, transform, Finset.sum_range]
  refine Finset.sum_congr rfl fun n _ => ?_
  have index : reverse6 0 + n * (64 / 2 ^ 6) = n := by
    change 0 + n.val * 1 = n.val
    omega
  rw [index, show 64 / 2 ^ 6 = 1 from rfl, pow_one, root64_pow]
  congr 2
  push_cast
  ring

end Guardian.Dsp
