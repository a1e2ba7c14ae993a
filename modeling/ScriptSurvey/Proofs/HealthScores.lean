import Mathlib.Algebra.Order.BigOperators.Group.List
import ScriptSurvey.Proofs.ExactScale
import ScriptSurvey.Proofs.HealthCounts

/-!
# Health scores

Every signal that is looked at takes off what its findings cost, up to its cap. One more finding, or
one more signal, takes off as much or more, and neither cutting off what is left at 0 and 100 nor
rounding it turns two scores around.
-/
namespace ScriptSurvey.Health
open ExactScale

def Rating.rank : Rating → ℕ
  | excellent => 0
  | good => 1
  | warning => 2
  | critical => 3

lemma rank_of_antitone : Antitone fun points => (Rating.of points).rank := by
  intro m n h
  simp only [Rating.of]
  split_ifs <;> simp only [Rating.rank] <;> omega

/-- All that was counted is counted again, and there is as much of it or more. -/
def Grows (counts counts' : Counts) : Prop :=
  ∀ s n, counts s = some n → ∃ n', counts' s = some n' ∧ n ≤ n'

/-! ## Penalties -/

section

variable (s : Signal) (n : ℕ)

lemma penalty_rat : (penalty s n : ℚ) = min (n * ((s.tenths : ℚ) / 10)) s.cap := by
  simp [penalty]

lemma penalty_nonneg : (0 : ℚ) ≤ penalty s n := by
  rw [penalty_rat]
  positivity

lemma penalty_le_cap : (penalty s n : ℚ) ≤ s.cap := by
  rw [penalty_rat]
  exact min_le_right ..

lemma penalty_mono : Monotone (penalty s : ℕ → ℚ) := by
  intro m n h
  rw [penalty_rat, penalty_rat]
  gcongr

end

/-! ## The sum of the penalties -/

section

variable {counts counts' : Counts}

def deduction (counts : Counts) (s : Signal) : ℚ := (counts s).elim 0 (penalty s)

lemma deduction_le (h : Grows counts counts') (s : Signal) :
    deduction counts s ≤ deduction counts' s := by
  rw [deduction, deduction]
  cases hn : counts s with
  | none =>
    cases counts' s with
    | none => exact le_rfl
    | some n' => exact penalty_nonneg s n'
  | some n =>
    obtain ⟨n', hn', hle⟩ := h s n hn
    rw [hn']
    exact penalty_mono s hle

lemma totalPenalty_rat (lines : List (PenaltyLine ℚ)) :
    totalPenalty lines = (lines.map (·.penalty)).sum := by
  rw [totalPenalty, List.sum_eq_foldl, List.foldl_map]
  simp

lemma sum_penalties (counts : Counts) :
    ((breakdown counts : List (PenaltyLine ℚ)).map (·.penalty)).sum =
      (Signal.all.map (deduction counts)).sum := by
  rw [breakdown]
  induction Signal.all with
  | nil => rfl
  | cons s signals ih =>
    rw [List.map_cons, List.sum_cons, ← ih, deduction]
    cases hn : counts s <;> simp [hn]

lemma points_scoreOn (counts : Counts) : (scoreOn ℚ counts).points =
    Scale.points (100 - (Signal.all.map (deduction counts)).sum) := by
  rw [← sum_penalties, ← totalPenalty_rat]
  rfl

lemma points_antitone (h : Grows counts counts') :
    (scoreOn ℚ counts').points ≤ (scoreOn ℚ counts).points := by
  rw [points_scoreOn, points_scoreOn]
  exact points_mono (sub_le_sub_left (List.sum_le_sum fun s _ => deduction_le h s) 100)

end

/-! ## The text of a score -/

section

variable {α : Type} [Scale α]

lemma mem_map_signal_breakdown {counts : Counts} {s : Signal} :
    s ∈ (breakdown counts : List (PenaltyLine α)).map (·.signal) ↔ (counts s).isSome := by
  have hall : s ∈ Signal.all := by cases s <;> decide
  rw [map_signal_breakdown, List.mem_filter, and_iff_right hall]

lemma map_line_breakdown (counts : Counts) :
    ((breakdown counts : List (PenaltyLine α)).map fun line => (line.signal, line.count)) =
      Signal.all.filterMap fun s => (counts s).map (s, ·) := by
  rw [breakdown, List.map_filterMap]
  exact List.filterMap_congr fun s _ => Option.map_map ..

lemma penalty_of_mem_breakdown {counts : Counts} {line : PenaltyLine α}
    (h : line ∈ breakdown counts) : line.penalty = penalty line.signal line.count := by
  obtain ⟨s, -, hline⟩ := List.mem_filterMap.mp h
  obtain ⟨n, -, rfl⟩ := Option.map_eq_some_iff.mp hline
  rfl

lemma topIssues_breakdown (counts : Counts) :
    topIssues (breakdown counts : List (PenaltyLine α)) =
      ((Signal.all.filter fun s => 0 < (counts s).getD 0).take 5).map fun s =>
        s!"{(counts s).getD 0} {s.label}" := by
  rw [topIssues, List.map_take, List.map_take]
  congr 1
  rw [breakdown, List.filter_filterMap, List.map_filterMap, ← List.filterMap_eq_map,
    List.filterMap_filter]
  refine List.filterMap_congr fun s _ => ?_
  cases hn : counts s with
  | none => simp
  | some n => by_cases hpos : 0 < n <;> simp [hn, Option.filter_some, hpos]

end

/-- On the scale of fractions: the points are a hundred less all penalties, cut off and rounded, and
so at most a hundred. They do not rise and the rating does not get better when there are more
signals or more findings. The breakdown has a line for each signal that was counted, in the order of
signals, with a penalty that keeps to the cap. The top issues are the first five signals with
findings. -/
theorem score_antitone (counts : Counts) :
    let result := scoreOn ℚ counts
    (∀ counts', Grows counts counts' → (scoreOn ℚ counts').points ≤ result.points ∧
      result.rating.rank ≤ (scoreOn ℚ counts').rating.rank) ∧
    result.points ≤ 100 ∧
    (result.points : ℤ) =
      round (max 0 (min 100 (100 - (result.breakdown.map (·.penalty)).sum))) ∧
    (result.breakdown.map fun line => (line.signal, line.count)) =
      Signal.all.filterMap (fun s => (counts s).map (s, ·)) ∧
    (∀ s, s ∈ result.breakdown.map (·.signal) ↔ (counts s).isSome) ∧
    (∀ line ∈ result.breakdown,
      line.penalty = min (line.count * ((line.signal.tenths : ℚ) / 10)) line.signal.cap ∧
      line.penalty ≤ line.signal.cap) ∧
    result.topIssues = ((Signal.all.filter fun s => 0 < (counts s).getD 0).take 5).map fun s =>
      s!"{(counts s).getD 0} {s.label}" := by
  intro result
  refine ⟨fun counts' h => ⟨points_antitone h, rank_of_antitone (points_antitone h)⟩,
    points_le_hundred _, ?_, map_line_breakdown counts, fun s => mem_map_signal_breakdown,
    fun line hline => ?_, topIssues_breakdown counts⟩
  · rw [← totalPenalty_rat]
    exact points_eq_round _
  · rw [penalty_of_mem_breakdown hline]
    exact ⟨penalty_rat .., penalty_le_cap ..⟩

/-- Two functions of critical complexity and a rule error, beside dead code and undocumented
exports. -/
def sampleCounts (dead : ℕ) (undocumented : Option ℕ) : Counts
  | .deadCode => some dead
  | .undocumented => undocumented
  | .complexityCritical => some 2
  | .ruleErrors => some 1
  | _ => none

/-- More dead code costs no more than the cap, and three exports less than a point. -/
theorem score_antitone_sample :
    let few := sampleCounts 100 none
    let more := sampleCounts 200 (some 3)
    Grows few more ∧ (scoreOn ℚ few).points = 77 ∧ (scoreOn ℚ more).points = 76 ∧
      (scoreOn ℚ more).points ≤ (scoreOn ℚ few).points ∧
      (scoreOn ℚ few).rating.rank ≤ (scoreOn ℚ more).rating.rank := by
  intro few more
  have hgrows : Grows few more := by
    intro s n hn
    cases s <;> simp_all [few, more, sampleCounts]
    omega
  obtain ⟨hpoints, hrank⟩ := (score_antitone few).1 more hgrows
  exact ⟨hgrows, by decide +kernel, by decide +kernel, hpoints, hrank⟩

end ScriptSurvey.Health
