import DocumentQuery.Proofs.Monitor.Consistency
import Mathlib.Algebra.BigOperators.Ring.List
import Mathlib.Algebra.Order.Field.Rat
import Mathlib.Data.List.Sort
import Mathlib.Data.String.Basic
import Mathlib.Tactic.Positivity

/-!
Reports on what a session has counted. The kinds of refusals are ranked by how often they were
counted, and their counts make up all that was rejected, because they do so between any two calls.
-/

namespace DocumentQuery

open Number

/-- The windows of a session that begins with nothing counted. -/
inductive Window.Reached : Window → Prop
  | begun (start : Nat) : Reached ⟨start, .zero⟩
  | served {window : Window} (reached : window.Reached) (demand : Demand) :
      Reached (window.serve demand).1

theorem Window.consistent_of_reached {window : Window} (reached : window.Reached) :
    window.tally.Unsaturated → window.tally.Consistent := by
  induction reached with
  | begun start =>
      intro _
      exact Tally.consistent_zero
  | @served window reached demand induction =>
      cases demand with
      | call now compiler call =>
          intro unsaturated
          exact Tally.consistent_after induction unsaturated
      | report requested => exact induction

def Window.serveAll (window : Window) (demands : List Demand) : Window :=
  demands.foldl (fun current demand => (current.serve demand).1) window

theorem Window.reached_serve_all {window : Window} (reached : window.Reached)
    (demands : List Demand) : (window.serveAll demands).Reached := by
  induction demands generalizing window with
  | nil => exact reached
  | cons demand rest induction => exact induction (reached.served demand)

namespace Report

theorem precedes_iff (left right : Refusal × Nat) :
    precedes left right = true ↔
      right.2 < left.2 ∨ (left.2 = right.2 ∧ left.1.name ≤ right.1.name) := by
  rw [precedes, Bool.or_eq_true, Bool.and_eq_true, decide_eq_true_eq, decide_eq_true_eq,
    decide_eq_true_eq]

instance : Std.Total fun left right : Refusal × Nat => precedes left right = true where
  total left right := by
    rw [precedes_iff, precedes_iff]
    rcases Nat.lt_trichotomy left.2 right.2 with less | same | greater
    · exact .inr (.inl less)
    · rcases le_total left.1.name right.1.name with smaller | larger
      · exact .inl (.inr ⟨same, smaller⟩)
      · exact .inr (.inr ⟨same.symm, larger⟩)
    · exact .inl (.inl greater)

instance : IsTrans (Refusal × Nat) fun left right => precedes left right = true where
  trans left middle right first second := by
    rw [precedes_iff] at first second ⊢
    rcases first with greater | ⟨same, smaller⟩
    · rcases second with greaterStill | ⟨sameStill, -⟩
      · exact .inl (Nat.lt_trans greaterStill greater)
      · exact .inl (sameStill ▸ greater)
    · rcases second with greater | ⟨sameStill, smallerStill⟩
      · exact .inl (same ▸ greater)
      · exact .inr ⟨same.trans sameStill, le_trans smaller smallerStill⟩

theorem insert_ranked_eq (entry : Refusal × Nat) (entries : List (Refusal × Nat)) :
    insertRanked entry entries =
      entries.orderedInsert (fun left right => precedes left right = true) entry := by
  induction entries with
  | nil => rfl
  | cons first rest induction => rw [insertRanked, List.orderedInsert_cons, induction]

/-- Ranking is a sort by insertion. -/
theorem ranked_eq (entries : List (Refusal × Nat)) :
    ranked entries =
      entries.insertionSort fun left right => precedes left right = true := by
  induction entries with
  | nil => rfl
  | cons entry rest induction =>
      rw [ranked, insert_ranked_eq, induction, List.insertionSort_cons]

theorem perm_ranked (entries : List (Refusal × Nat)) : (ranked entries).Perm entries := by
  rw [ranked_eq]
  exact List.perm_insertionSort _ entries

theorem pairwise_ranked (entries : List (Refusal × Nat)) :
    (ranked entries).Pairwise fun left right => precedes left right = true := by
  rw [ranked_eq]
  exact List.pairwise_insertionSort _ entries

end Report

namespace RefusalShare

/-- The part of all rejections that an entry stands for, before it is rounded. -/
def ratio (rejected : Nat) (entry : RefusalShare) : ℚ := entry.count / rejected

def RanksBefore (first second : RefusalShare) : Prop :=
  second.count < first.count ∨
    (first.count = second.count ∧ first.refusal.name < second.refusal.name)

end RefusalShare

/-- What a report says of a tally: each kind of refusal once with its count, the most frequent
first, as parts that make up all rejections. -/
structure Report.Ranks (tally : Tally) (report : Report) : Prop where
  shown : report.tally = some tally
  listed : (report.refusals.map fun entry => (entry.refusal, entry.count)).Perm tally.rejections
  once : (report.refusals.map fun entry => entry.refusal.name).Nodup
  ordered : report.refusals.Pairwise RefusalShare.RanksBefore
  summed : (report.refusals.map RefusalShare.count).sum = tally.compilesRejected
  rounded : ∀ entry ∈ report.refusals,
    entry.share = Binary64.quotient entry.count tally.compilesRejected
  ratio_pos : ∀ entry ∈ report.refusals, 0 < entry.ratio tally.compilesRejected
  ratio_le : ∀ entry ∈ report.refusals, entry.ratio tally.compilesRejected ≤ 1
  ratio_sum : 0 < tally.compilesRejected →
    (report.refusals.map (RefusalShare.ratio tally.compilesRejected)).sum = 1
  empty : tally.compilesRejected = 0 → report.refusals = []

namespace Report

theorem map_refusals_of_tally {Value : Type} (tally : Tally) (value : Refusal → Nat → Value) :
    (ofTally tally).refusals.map (fun entry => value entry.refusal entry.count) =
      (ranked tally.rejections).map fun entry => value entry.1 entry.2 := by
  rw [ofTally, List.map_map]
  rfl

variable {tally : Tally}

theorem count_bounds (held : tally.Consistent) :
    ∀ entry ∈ (ofTally tally).refusals,
      1 ≤ entry.count ∧ entry.count ≤ tally.compilesRejected := by
  intro entry member
  obtain ⟨known, listed, rfl⟩ := List.mem_map.mp member
  have counted := (perm_ranked tally.rejections).mem_iff.mp listed
  rw [held.rejected]
  exact ⟨held.refusals.counted known counted,
    List.le_sum_of_mem (List.mem_map_of_mem counted)⟩

theorem sum_of_tally (held : tally.Consistent) :
    ((ofTally tally).refusals.map RefusalShare.count).sum = tally.compilesRejected := by
  rw [held.rejected]
  calc ((ofTally tally).refusals.map RefusalShare.count).sum
      = ((ranked tally.rejections).map Prod.snd).sum :=
        congrArg List.sum (map_refusals_of_tally tally fun _ count => count)
    _ = (tally.rejections.map Prod.snd).sum :=
        ((perm_ranked tally.rejections).map Prod.snd).sum_eq

/-- No two kinds of one name are listed, so that of equal counts the names differ. -/
theorem ordered_of_tally (held : tally.Consistent) :
    (ofTally tally).refusals.Pairwise RefusalShare.RanksBefore := by
  have distinct : (ranked tally.rejections).Pairwise
      fun first second => first.1.name ≠ second.1.name := by
    apply List.pairwise_map.mp
    exact (((perm_ranked tally.rejections).map _).nodup_iff).mpr held.refusals.distinct
  apply List.pairwise_map.mpr
  apply ((pairwise_ranked tally.rejections).and distinct).imp
  rintro first second ⟨precedes, different⟩
  rcases (precedes_iff first second).mp precedes with greater | ⟨same, notGreater⟩
  · exact .inl greater
  · exact .inr ⟨same, lt_of_le_of_ne notGreater different⟩

theorem sum_ratio (held : tally.Consistent) (rejected : 0 < tally.compilesRejected) :
    ((ofTally tally).refusals.map (RefusalShare.ratio tally.compilesRejected)).sum = 1 := by
  have whole : (tally.compilesRejected : ℚ) ≠ 0 := Nat.cast_ne_zero.mpr (Nat.ne_of_gt rejected)
  have counts : ((ofTally tally).refusals.map fun entry => (entry.count : ℚ)).sum =
      tally.compilesRejected := by
    rw [← sum_of_tally held, ← Nat.coe_castAddMonoidHom, map_list_sum, List.map_map]
    rfl
  calc ((ofTally tally).refusals.map (RefusalShare.ratio tally.compilesRejected)).sum
      = ((ofTally tally).refusals.map fun entry =>
          (entry.count : ℚ) * (tally.compilesRejected : ℚ)⁻¹).sum := rfl
    _ = ((ofTally tally).refusals.map fun entry => (entry.count : ℚ)).sum *
          (tally.compilesRejected : ℚ)⁻¹ := List.sum_map_mul_right _ _ _
    _ = 1 := by rw [counts, mul_inv_cancel₀ whole]

theorem ranks_of_tally (held : tally.Consistent) : (ofTally tally).Ranks tally := by
  have bounds := count_bounds held
  have positive : ∀ entry ∈ (ofTally tally).refusals, 0 < tally.compilesRejected := by
    intro entry member
    obtain ⟨counted, part⟩ := bounds entry member
    exact Nat.lt_of_lt_of_le counted part
  constructor
  case shown => rfl
  case listed =>
    rw [map_refusals_of_tally tally Prod.mk, List.map_id']
    exact perm_ranked tally.rejections
  case once =>
    rw [map_refusals_of_tally tally fun refusal _ => refusal.name]
    exact ((perm_ranked tally.rejections).map _).nodup_iff.mpr held.refusals.distinct
  case ordered => exact ordered_of_tally held
  case summed => exact sum_of_tally held
  case rounded =>
    intro entry member
    obtain ⟨known, -, rfl⟩ := List.mem_map.mp member
    rfl
  case ratio_pos =>
    intro entry member
    have rejected := positive entry member
    have counted : 0 < entry.count := (bounds entry member).1
    rw [RefusalShare.ratio]
    positivity
  case ratio_le =>
    intro entry member
    have whole : (0 : ℚ) < tally.compilesRejected := Nat.cast_pos.mpr (positive entry member)
    rw [RefusalShare.ratio, div_le_one whole]
    exact Nat.cast_le.mpr (bounds entry member).2
  case ratio_sum => exact sum_ratio held
  case empty =>
    intro none
    apply List.eq_nil_iff_forall_not_mem.mpr
    intro entry member
    exact Nat.ne_of_gt (positive entry member) none

end Report

namespace Window

theorem report_of_begun {window : Window} {requested : Option Nat}
    (begun : ∀ time ∈ requested, time ≤ window.start) :
    window.report requested = Report.ofTally window.tally := by
  cases requested with
  | none => rfl
  | some time =>
      rw [report]
      exact if_neg (Nat.not_lt.mpr (begun time rfl))

/-- A report on a window that has not begun before the time asked for ranks the kinds of refusals
that the session has counted, and leaves the window as it is. -/
theorem report_ranks {window : Window} (reached : window.Reached)
    (unsaturated : window.tally.Unsaturated) {requested : Option Nat}
    (begun : ∀ time ∈ requested, time ≤ window.start) :
    ∃ report, window.serve (.report requested) = (window, some report) ∧
      report.Ranks window.tally := by
  refine ⟨Report.ofTally window.tally, ?_, ?_⟩
  · rw [serve, report_of_begun begun]
  · exact Report.ranks_of_tally (consistent_of_reached reached unsaturated)

/-- A compilation is cut short by a date that is too late, a look-up and two compilations meet a
property that is not known, and the window has been reported on and begun anew before. -/
def refusedDemands : List Demand :=
  let misspelled : Call := .compile (.plain (.unary .isNull (.property "dc:titel")) [])
  let tooLate : Call := .compile (.plain (.compare "dc:title" .equal
    (.date ⟨300000000000000000000, 0⟩)) [])
  [.call 10 Compiler.noteCompiler misspelled, .report none, .call 20 Compiler.noteCompiler .reset,
   .call 30 Compiler.noteCompiler tooLate, .call 40 Compiler.noteCompiler misspelled,
   .call 50 Compiler.noteCompiler (.resolve "dc:titel"), .report (some 30),
   .call 60 Compiler.noteCompiler misspelled]

def refusedWindow : Window := (⟨0, .zero⟩ : Window).serveAll refusedDemands

theorem report_ranks_refused :
    refusedWindow.tally.rejections = [(.aborted, 1), (.rejection .unknownProperty, 2)] ∧
      ∃ report, refusedWindow.serve (.report (some 20)) = (refusedWindow, some report) ∧
        report.Ranks refusedWindow.tally := by
  have served : refusedWindow =
      ⟨20, 3, 0, 3, 0, 0, 1, 0, [(.aborted, 1), (.rejection .unknownProperty, 2)]⟩ := rfl
  have unsaturated : refusedWindow.tally.Unsaturated := by
    rw [served]
    constructor <;> decide
  have begun : ∀ time ∈ some 20, time ≤ refusedWindow.start := by
    rw [served]
    decide
  exact ⟨rfl, report_ranks (reached_serve_all (.begun 0) refusedDemands) unsaturated begun⟩

end Window

end DocumentQuery
