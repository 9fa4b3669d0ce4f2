import Mathlib.Data.List.Basic

/-!
# Incremental scanners

A scanner cuts a stream into frames. Its verdict on the unread input is to wait
for more, to skip one symbol, or to take a frame of a given length. A verdict
other than waiting must not change when more input arrives.

Scanning goes on until the verdict is to wait (`verdict_scan_rest`). The pieces
found and the rest concatenate to the input (`scan_bytes`). **Scanning may stop
and resume** (`scan_append`): the input may arrive in two parts, with the rest
of the first part read again in front of the second.
-/

set_option autoImplicit false

namespace MobileGs

universe u

/-- What a scanner does with the unread input. -/
inductive Verdict where
  | wait
  | skip
  | take (length : ℕ)
  deriving DecidableEq

/-- A stretch of input a scanner has decided on. -/
inductive Piece (α : Type u) where
  | skipped (symbol : α)
  | frame (symbols : List α)
  deriving DecidableEq

namespace Piece

variable {α : Type u}

/-- The symbols of a piece. -/
def symbols : Piece α → List α
  | .skipped symbol => [symbol]
  | .frame symbols => symbols

/-- The frame a piece holds. -/
def frame? : Piece α → Option (List α)
  | .skipped _ => none
  | .frame symbols => some symbols

end Piece

/-- The frames among the pieces, in order. -/
def frames {α : Type u} (pieces : List (Piece α)) : List (List α) :=
  pieces.filterMap Piece.frame?

/-- The number of symbols skipped. -/
def skippedCount {α : Type u} (pieces : List (Piece α)) : ℕ :=
  pieces.countP fun piece => piece.frame?.isNone

section Counting

variable {α : Type u}

@[simp] theorem frames_nil : frames ([] : List (Piece α)) = [] := rfl

@[simp] theorem frames_skipped (a : α) (pieces : List (Piece α)) :
    frames (.skipped a :: pieces) = frames pieces := rfl

@[simp] theorem frames_frame (symbols : List α) (pieces : List (Piece α)) :
    frames (.frame symbols :: pieces) = symbols :: frames pieces := rfl

@[simp] theorem frames_append (first later : List (Piece α)) :
    frames (first ++ later) = frames first ++ frames later :=
  List.filterMap_append

@[simp] theorem skippedCount_nil : skippedCount ([] : List (Piece α)) = 0 := rfl

@[simp] theorem skippedCount_skipped (a : α) (pieces : List (Piece α)) :
    skippedCount (.skipped a :: pieces) = skippedCount pieces + 1 :=
  List.countP_cons_of_pos rfl

@[simp] theorem skippedCount_frame (symbols : List α) (pieces : List (Piece α)) :
    skippedCount (.frame symbols :: pieces) = skippedCount pieces :=
  List.countP_cons_of_neg (by simp [Piece.frame?])

@[simp] theorem skippedCount_append (first later : List (Piece α)) :
    skippedCount (first ++ later) = skippedCount first + skippedCount later :=
  List.countP_append

/-- Every symbol of the pieces is skipped or in a frame. -/
theorem length_symbols (pieces : List (Piece α)) :
    (pieces.flatMap Piece.symbols).length =
      (frames pieces).flatten.length + skippedCount pieces := by
  induction pieces with
  | nil => rfl
  | cons piece rest ih =>
      rw [List.flatMap_cons, List.length_append, ih]
      cases piece with
      | skipped a =>
          rw [frames_skipped, skippedCount_skipped, Piece.symbols, List.length_singleton]
          omega
      | frame symbols =>
          rw [frames_frame, skippedCount_frame, Piece.symbols, List.flatten_cons,
            List.length_append]
          omega

end Counting

/-- A rule for cutting a stream into frames. A decision, once made, does not
depend on the input behind it. -/
structure Scanner (α : Type u) where
  verdict : List α → Verdict
  verdict_nil : verdict [] = .wait
  take_pos : ∀ {unread : List α} {length : ℕ}, verdict unread = .take length → 0 < length
  take_le : ∀ {unread : List α} {length : ℕ},
    verdict unread = .take length → length ≤ unread.length
  verdict_append : ∀ {unread : List α} (more : List α), verdict unread ≠ .wait →
    verdict (unread ++ more) = verdict unread

namespace Scanner

variable {α : Type u} (S : Scanner α)

/-- Scan with a bound on the number of decisions. -/
def scanWith : ℕ → List α → List (Piece α) × List α
  | 0, unread => ([], unread)
  | fuel + 1, unread =>
      match S.verdict unread, unread with
      | .wait, _ => ([], unread)
      | .skip, [] => ([], [])
      | .skip, a :: tail => (.skipped a :: (scanWith fuel tail).1, (scanWith fuel tail).2)
      | .take length, _ =>
          (.frame (unread.take length) :: (scanWith fuel (unread.drop length)).1,
            (scanWith fuel (unread.drop length)).2)

/-- Scan until the verdict is to wait: the pieces found, and the rest. Every
decision consumes a symbol, so the length of the input bounds their number. -/
def scan (unread : List α) : List (Piece α) × List α :=
  S.scanWith unread.length unread

theorem not_skip_nil : S.verdict [] ≠ .skip := by
  rw [S.verdict_nil]
  exact Verdict.noConfusion

/-- More decisions than symbols are never needed. -/
theorem scanWith_eq_scan : ∀ (fuel : ℕ) (unread : List α), unread.length ≤ fuel →
    S.scanWith fuel unread = S.scan unread := by
  have agree : ∀ (n fuel fuel' : ℕ) (unread : List α), unread.length ≤ n →
      unread.length ≤ fuel → unread.length ≤ fuel' →
      S.scanWith fuel unread = S.scanWith fuel' unread := by
    intro n
    induction n with
    | zero =>
        intro fuel fuel' unread short _ _
        obtain rfl := List.length_eq_zero_iff.mp (Nat.le_zero.mp short)
        cases fuel <;> cases fuel' <;> simp [scanWith, S.verdict_nil]
    | succ n ih =>
        intro fuel fuel' unread short enough enough'
        cases unread with
        | nil => cases fuel <;> cases fuel' <;> simp [scanWith, S.verdict_nil]
        | cons a tail =>
            obtain ⟨fuel, rfl⟩ : ∃ k, fuel = k + 1 :=
              Nat.exists_eq_add_one.mpr (Nat.lt_of_lt_of_le (by simp) enough)
            obtain ⟨fuel', rfl⟩ : ∃ k, fuel' = k + 1 :=
              Nat.exists_eq_add_one.mpr (Nat.lt_of_lt_of_le (by simp) enough')
            simp only [List.length_cons, Nat.add_le_add_iff_right] at short enough enough'
            cases decided : S.verdict (a :: tail) with
            | wait => simp only [scanWith, decided]
            | skip =>
                simp only [scanWith, decided]
                rw [ih fuel fuel' tail short enough enough']
            | take length =>
                have pos := S.take_pos decided
                have shorter : ((a :: tail).drop length).length ≤ tail.length := by
                  simp only [List.length_drop, List.length_cons]
                  omega
                simp only [scanWith, decided]
                rw [ih fuel fuel' _ (Nat.le_trans shorter short) (Nat.le_trans shorter enough)
                  (Nat.le_trans shorter enough')]
  intro fuel unread enough
  exact agree unread.length fuel unread.length unread (Nat.le_refl _) enough (Nat.le_refl _)

/-! ## One decision at a time -/

theorem scan_wait {unread : List α} (decided : S.verdict unread = .wait) :
    S.scan unread = ([], unread) := by
  cases unread with
  | nil => rfl
  | cons a tail => simp only [scan, List.length_cons, scanWith, decided]

@[simp] theorem scan_nil : S.scan [] = ([], []) :=
  S.scan_wait S.verdict_nil

theorem scan_skip {a : α} {tail : List α} (decided : S.verdict (a :: tail) = .skip) :
    S.scan (a :: tail) = (.skipped a :: (S.scan tail).1, (S.scan tail).2) := by
  simp only [scan, List.length_cons, scanWith, decided]

theorem scan_take {unread : List α} {length : ℕ} (decided : S.verdict unread = .take length) :
    S.scan unread =
      (.frame (unread.take length) :: (S.scan (unread.drop length)).1,
        (S.scan (unread.drop length)).2) := by
  cases unread with
  | nil =>
      rw [S.verdict_nil] at decided
      exact Verdict.noConfusion decided
  | cons a tail =>
      have pos := S.take_pos decided
      have shorter : ((a :: tail).drop length).length ≤ tail.length := by
        simp only [List.length_drop, List.length_cons]
        omega
      rw [← S.scanWith_eq_scan tail.length _ shorter]
      simp only [scan, List.length_cons, scanWith, decided]

/-- Induction along the decisions of a scan. -/
theorem scan_induction {motive : List α → Prop}
    (wait : ∀ unread, S.verdict unread = .wait → motive unread)
    (skip : ∀ a tail, S.verdict (a :: tail) = .skip → motive tail → motive (a :: tail))
    (take : ∀ unread length, S.verdict unread = .take length → motive (unread.drop length) →
      motive unread)
    (unread : List α) : motive unread := by
  generalize size : unread.length = n
  induction n using Nat.strongRecOn generalizing unread with
  | ind n ih =>
      cases decided : S.verdict unread with
      | wait => exact wait unread decided
      | skip =>
          cases unread with
          | nil => exact absurd decided S.not_skip_nil
          | cons a tail =>
              refine skip a tail decided (ih tail.length ?_ tail rfl)
              rw [← size, List.length_cons]
              exact Nat.lt_succ_self _
      | take length =>
          have pos := S.take_pos decided
          have fits := S.take_le decided
          refine take unread length decided (ih _ ?_ _ rfl)
          rw [List.length_drop]
          omega

/-! ## What a scan leaves -/

/-- A scan stops where the verdict is to wait. -/
theorem verdict_scan_rest (unread : List α) : S.verdict (S.scan unread).2 = .wait := by
  induction unread using S.scan_induction with
  | wait unread decided => rwa [S.scan_wait decided]
  | skip a tail decided ih => rwa [S.scan_skip decided]
  | take unread length decided ih => rwa [S.scan_take decided]

/-- The rest of a scan holds no further piece. -/
theorem scan_rest (unread : List α) : S.scan (S.scan unread).2 = ([], (S.scan unread).2) :=
  S.scan_wait (S.verdict_scan_rest unread)

/-- The pieces and the rest concatenate to the input. -/
theorem scan_bytes (unread : List α) :
    (S.scan unread).1.flatMap Piece.symbols ++ (S.scan unread).2 = unread := by
  induction unread using S.scan_induction with
  | wait unread decided => rw [S.scan_wait decided]; rfl
  | skip a tail decided ih =>
      rw [S.scan_skip decided]
      simp only [List.flatMap_cons, Piece.symbols, List.cons_append, List.nil_append, ih]
  | take unread length decided ih =>
      rw [S.scan_take decided]
      simp only [List.flatMap_cons, Piece.symbols, List.append_assoc, ih, List.take_append_drop]

/-- **Scanning may stop and resume**: the rest of the first part is read again in
front of the second. -/
theorem scan_append (unread more : List α) :
    S.scan (unread ++ more) =
      ((S.scan unread).1 ++ (S.scan ((S.scan unread).2 ++ more)).1,
        (S.scan ((S.scan unread).2 ++ more)).2) := by
  induction unread using S.scan_induction with
  | wait unread decided => rw [S.scan_wait decided]; rfl
  | skip a tail decided ih =>
      have decided' : S.verdict (a :: (tail ++ more)) = .skip := by
        rw [← List.cons_append, S.verdict_append more (by rw [decided]; exact Verdict.noConfusion),
          decided]
      rw [List.cons_append, S.scan_skip decided', S.scan_skip decided, ih]
      rfl
  | take unread length decided ih =>
      have fits := S.take_le decided
      have decided' : S.verdict (unread ++ more) = .take length := by
        rw [S.verdict_append more (by rw [decided]; exact Verdict.noConfusion), decided]
      rw [S.scan_take decided', S.scan_take decided, List.drop_append_of_le_length fits,
        List.take_append_of_le_length fits, ih]
      rfl

/-- A scan that never waits in front of some input leaves nothing. -/
theorem scan_rest_nil {unread : List α}
    (decided : ∀ suffix, suffix <:+ unread → suffix ≠ [] → S.verdict suffix ≠ .wait) :
    (S.scan unread).2 = [] := by
  induction unread using S.scan_induction with
  | wait unread waits =>
      rw [S.scan_wait waits]
      by_contra some
      exact decided unread List.suffix_rfl some waits
  | skip a tail skips ih =>
      rw [S.scan_skip skips]
      exact ih fun suffix behind => decided suffix (behind.trans (List.suffix_cons a tail))
  | take unread length takes ih =>
      rw [S.scan_take takes]
      exact ih fun suffix behind => decided suffix (behind.trans (List.drop_suffix length unread))

/-- A frame in front of the input is taken whole. -/
theorem scan_frame_append {frame : List α} (decided : S.verdict frame = .take frame.length)
    (more : List α) :
    S.scan (frame ++ more) = (.frame frame :: (S.scan more).1, (S.scan more).2) := by
  have decided' : S.verdict (frame ++ more) = .take frame.length := by
    rw [S.verdict_append more (by rw [decided]; exact Verdict.noConfusion), decided]
  rw [S.scan_take decided', List.take_left, List.drop_left]

end Scanner

end MobileGs
