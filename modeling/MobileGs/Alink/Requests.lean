import MobileGs.Alink.Message
import MobileGs.Foundations.Latest

/-!
# Keyframe requests

A loss starts a request, which the next messages repeat: as many of them as `idr_max_messages`
says, and a further loss starts the count again with a new code. What is pending behind a sequence
of updates is the latest loss and how many messages have shown it (`Tracks`), so a message carries
a code exactly when a loss lies in the window behind it (`updates_request`).

A pending request outlives a change of the configuration, and it is repeated under one that allows
none (`not_silent_reconfigured`). An update under such a configuration is silent exactly when
nothing is pending, or when a loss of its own, under a bound of zero or less, replaces what is
(`silent_iff`).
-/

set_option autoImplicit false

namespace MobileGs

namespace Alink

open Wfb

/-- The snapshot reports a loss. -/
def Call.lossy (call : Call) : Bool := decide (0 < call.snapshot.packetsLost)

theorem Call.lossy_iff (call : Call) : call.lossy = true ↔ 0 < call.snapshot.packetsLost :=
  decide_eq_true_iff

/-- The code a message carries, given the latest loss up to it and its age. -/
def requestCode (bound : ℤ) : Option (Call × ℕ) → List Char
  | some (call, age) => if (age : ℤ) < bound then call.drawn.letters else []
  | none => []

/-- Counting down from a positive number does not wrap. -/
theorem toInt_pred {n : Int32} (positive : 0 < n.toInt) : (n - 1).toInt = n.toInt - 1 := by
  have upper := n.toInt_lt
  rw [Int32.toInt_sub, show Int32.toInt 1 = 1 from rfl]
  exact Int.bmod_eq_of_le (by omega) (by omega)

theorem requestCode_colon (bound : ℤ) (last : Option (Call × ℕ)) :
    ':' ∉ requestCode bound last := by
  unfold requestCode
  split
  · split
    · exact IdrCode.colon_notMem _
    · exact List.not_mem_nil
  · exact List.not_mem_nil

/-- The latest loss in the window decides the code. -/
theorem requestCode_of_latestAt {bound : ℤ} {calls : List Call} {t s : ℕ} {call : Call}
    (inside : t < calls.length) (window : (t : ℤ) - bound < s)
    (latestLoss : LatestAt Call.lossy calls t s) (here : calls[s]? = some call) :
    requestCode bound (latest Call.lossy (calls.take (t + 1))) = call.drawn.letters := by
  have le := latestLoss.1
  rw [latest_take_of_latestAt inside latestLoss here, requestCode, if_pos (by omega)]

/-- A message carries no code exactly when there is no loss in the window. -/
theorem requestCode_eq_nil_iff {bound : ℤ} {calls : List Call} {t : ℕ}
    (inside : t < calls.length) :
    requestCode bound (latest Call.lossy (calls.take (t + 1))) = [] ↔
      ¬ ∃ s : ℕ, (t : ℤ) - bound < s ∧ s ≤ t ∧ HoldsAt Call.lossy calls s := by
  constructor
  · rintro empty ⟨s, window, le, lossy⟩
    obtain ⟨s', above, latestLoss⟩ := exists_latestAt le lossy
    obtain ⟨call, here, -⟩ := latestLoss.2.1
    rw [requestCode_of_latestAt inside (by omega) latestLoss here] at empty
    exact call.drawn.letters_ne_nil empty
  · intro outside
    by_cases any : ∃ s ≤ t, HoldsAt Call.lossy calls s
    · obtain ⟨s, le, lossy⟩ := any
      obtain ⟨s', -, latestLoss⟩ := exists_latestAt le lossy
      obtain ⟨call, here, -⟩ := latestLoss.2.1
      rw [latest_take_of_latestAt inside latestLoss here, requestCode, if_neg]
      intro window
      have le' := latestLoss.1
      exact outside ⟨s', by omega, le', latestLoss.2.1⟩
    · rw [latest_take_of_none fun s le lossy => any ⟨s, le, lossy⟩]
      rfl

section Controller

variable {R : Type} [Neg R] [OfScientific R]

/-- What is pending, in terms of the latest loss. Of the messages the request is good for, as many
are used up as the loss is updates old, and `shown` more. -/
structure Tracks (shown : ℕ) (last : Option (Call × ℕ)) (controller : AlinkController R) :
    Prop where
  pending : ∀ call age, last = some (call, age) →
    (age : ℤ) + shown < controller.config.idrMaxMessages.toInt →
    controller.idrCode = call.drawn.letters ∧
      controller.idrRemaining.toInt = controller.config.idrMaxMessages.toInt - (age + shown)
  quiet : (∀ call age, last = some (call, age) →
      controller.config.idrMaxMessages.toInt ≤ (age : ℤ) + shown) →
    ¬ controller.IdrPending

theorem AlinkController.config_requestIdr (controller : AlinkController R)
    (snapshot : LinkSnapshot) (drawn : IdrCode) :
    (controller.requestIdr snapshot drawn).config = controller.config := by
  unfold requestIdr
  split <;> rfl

theorem AlinkController.config_repeatIdr (controller : AlinkController R) :
    controller.repeatIdr.1.config = controller.config := by
  unfold repeatIdr
  split <;> rfl

theorem AlinkController.pending_iff (controller : AlinkController R) :
    controller.IdrPending ↔ controller.idrCode ≠ [] ∧ 0 < controller.idrRemaining.toInt :=
  and_congr_right fun _ => Int32.lt_iff_toInt_lt

theorem tracks_create (config : AlinkConfig R) :
    Tracks 1 none (AlinkController.create config) := by
  constructor
  · rintro _ _ ⟨⟩
  · rintro - ⟨code, -⟩
    exact code rfl

/-- What one update adds to the past. -/
theorem Tracks.requestIdr {last : Option (Call × ℕ)} {controller : AlinkController R}
    (tracks : Tracks 1 last controller) (allowed : controller.config.allowIdr = true)
    (call : Call) :
    Tracks 0 (latestStep Call.lossy last call)
      (controller.requestIdr call.snapshot call.drawn) := by
  by_cases lossy : call.lossy = true
  · have starts : controller.requestIdr call.snapshot call.drawn =
        { controller with
          idrCode := call.drawn.letters
          idrRemaining := controller.config.idrMaxMessages } :=
      if_pos ⟨call.lossy_iff.mp lossy, allowed⟩
    rw [latestStep, if_pos lossy, starts]
    constructor
    · rintro _ _ ⟨⟩ -
      exact ⟨rfl, by simp⟩
    · intro spent pending
      have bound := spent call 0 rfl
      have remains : 0 < controller.config.idrMaxMessages.toInt :=
        ((AlinkController.pending_iff _).mp pending).2
      push_cast at bound
      omega
  · have keeps : controller.requestIdr call.snapshot call.drawn = controller :=
      if_neg fun both => lossy (call.lossy_iff.mpr both.1)
    rw [latestStep, if_neg lossy, keeps]
    constructor
    · intro call' age' older below
      obtain ⟨⟨call'', age⟩, same, aged⟩ := Option.map_eq_some_iff.mp older
      obtain ⟨rfl, rfl⟩ := Prod.mk.inj aged
      have before := tracks.pending call'' age same (by push_cast at below; omega)
      push_cast at before ⊢
      exact ⟨before.1, by omega⟩
    · intro spent
      apply tracks.quiet
      rintro call' age rfl
      have bound := spent call' (age + 1) rfl
      push_cast at bound ⊢
      omega

theorem AlinkController.repeatIdr_of_not_pending {controller : AlinkController R}
    (none : ¬ controller.IdrPending) : controller.repeatIdr = (controller, []) :=
  if_neg none

/-- What one message takes from a request, and the code it carries. -/
theorem Tracks.repeatIdr {last : Option (Call × ℕ)} {controller : AlinkController R}
    (tracks : Tracks 0 last controller) :
    controller.repeatIdr.2 = requestCode controller.config.idrMaxMessages.toInt last ∧
      Tracks 1 last controller.repeatIdr.1 := by
  cases last with
  | none =>
      have none := tracks.quiet (by rintro _ _ ⟨⟩)
      rw [AlinkController.repeatIdr_of_not_pending none]
      exact ⟨rfl, by rintro _ _ ⟨⟩, fun _ => none⟩
  | some entry =>
      obtain ⟨call, age⟩ := entry
      by_cases inWindow : (age : ℤ) < controller.config.idrMaxMessages.toInt
      · obtain ⟨code, remaining⟩ := tracks.pending call age rfl (by push_cast; omega)
        push_cast at remaining
        have pending : controller.IdrPending := by
          rw [AlinkController.pending_iff, code]
          exact ⟨call.drawn.letters_ne_nil, by omega⟩
        have shows : controller.repeatIdr =
            ({ controller with
                idrCode := if controller.idrRemaining - 1 = 0 then [] else controller.idrCode
                idrRemaining := controller.idrRemaining - 1 },
              controller.idrCode) := if_pos pending
        have less : (controller.idrRemaining - 1).toInt = controller.idrRemaining.toInt - 1 :=
          toInt_pred (by omega)
        rw [shows, requestCode, if_pos inWindow]
        refine ⟨code, ?_, ?_⟩
        · rintro _ _ ⟨⟩ below
          simp only at below ⊢
          have more : controller.idrRemaining - 1 ≠ 0 := by
            intro zero
            rw [zero, Int32.toInt_zero] at less
            push_cast at below
            omega
          rw [if_neg more, less, remaining]
          push_cast
          exact ⟨code, by omega⟩
        · intro spent
          have bound := spent call age rfl
          rw [AlinkController.pending_iff]
          rintro ⟨-, remains⟩
          simp only at bound remains
          push_cast at bound
          omega
      · have none : ¬ controller.IdrPending := by
          apply tracks.quiet
          rintro _ _ ⟨⟩
          push_cast
          omega
        rw [AlinkController.repeatIdr_of_not_pending none, requestCode, if_neg inWindow]
        refine ⟨rfl, ?_, fun _ => none⟩
        rintro _ _ ⟨⟩ below
        push_cast at below
        omega

/-- The configuration asks for no keyframes. -/
def AlinkConfig.RequestsOff (config : AlinkConfig R) : Prop :=
  config.allowIdr = false ∨ config.idrMaxMessages ≤ 0

/-- Under a configuration without requests, nothing new is pending behind the start of one. -/
theorem AlinkController.pending_requestIdr_iff {controller : AlinkController R}
    (off : controller.config.RequestsOff) (call : Call) :
    (controller.requestIdr call.snapshot call.drawn).IdrPending ↔
      controller.IdrPending ∧
        ¬ (0 < call.snapshot.packetsLost ∧ controller.config.allowIdr = true) := by
  by_cases starts : 0 < call.snapshot.packetsLost ∧ controller.config.allowIdr = true
  · have bound : ¬ 0 < controller.config.idrMaxMessages := by
      rcases off with never | none
      · exact absurd (never.symm.trans starts.2) (by decide)
      · exact Int32.not_lt.mpr none
    rw [requestIdr, if_pos starts]
    exact iff_of_false (fun pending => bound pending.2) (fun both => both.2 starts)
  · rw [requestIdr, if_neg starts]
    exact (and_iff_left starts).symm

end Controller

variable {R : Type} [Add R] [Sub R] [Mul R] [Div R] [Neg R] [LT R] [DecidableLT R] [LE R]
  [DecidableLE R] [BEq R] [NatCast R] [IntCast R] [OfScientific R]

section Filter

omit [LE R] [DecidableLE R] [BEq R]

/-- The filter leaves requests alone. -/
theorem AlinkController.request_filterNoise (controller : AlinkController R)
    (snapshot : LinkSnapshot) :
    (controller.filterNoise snapshot).1.config = controller.config ∧
      (controller.filterNoise snapshot).1.idrCode = controller.idrCode ∧
      (controller.filterNoise snapshot).1.idrRemaining = controller.idrRemaining := by
  unfold filterNoise
  split <;> exact ⟨rfl, rfl, rfl⟩

theorem AlinkController.pending_filterNoise (controller : AlinkController R)
    (snapshot : LinkSnapshot) :
    (controller.filterNoise snapshot).1.IdrPending ↔ controller.IdrPending := by
  obtain ⟨-, code, remaining⟩ := controller.request_filterNoise snapshot
  rw [pending_iff, pending_iff, code, remaining]

theorem Tracks.filterNoise {shown : ℕ} {last : Option (Call × ℕ)}
    {controller : AlinkController R} (tracks : Tracks shown last controller)
    (snapshot : LinkSnapshot) : Tracks shown last (controller.filterNoise snapshot).1 := by
  obtain ⟨config, code, remaining⟩ := controller.request_filterNoise snapshot
  constructor
  · rw [config, code, remaining]
    exact tracks.pending
  · rw [AlinkController.pending_iff, config, code, remaining, ← AlinkController.pending_iff]
    exact tracks.quiet

end Filter

/-! ## Runs of updates -/

variable (libm : Libm R)

theorem AlinkController.config_update (controller : AlinkController R) (call : Call) :
    (controller.update libm call).1.config = controller.config := by
  have repeated := ((controller.requestIdr call.snapshot call.drawn).filterNoise
    call.snapshot).1.config_repeatIdr
  have filtered := ((controller.requestIdr call.snapshot call.drawn).request_filterNoise
    call.snapshot).1
  exact repeated.trans (filtered.trans (controller.config_requestIdr _ _))

/-- **One update** carries the code of the latest loss while that is in its window. -/
theorem Tracks.update {last : Option (Call × ℕ)} {controller : AlinkController R}
    (tracks : Tracks 1 last controller) (allowed : controller.config.allowIdr = true)
    (call : Call) :
    (controller.update libm call).2.idrCode =
        requestCode controller.config.idrMaxMessages.toInt
          (latestStep Call.lossy last call) ∧
      Tracks 1 (latestStep Call.lossy last call) (controller.update libm call).1 := by
  have filtered := (tracks.requestIdr allowed call).filterNoise call.snapshot
  obtain ⟨code, tracks'⟩ := filtered.repeatIdr
  rw [(AlinkController.request_filterNoise _ _).1, AlinkController.config_requestIdr] at code
  exact ⟨code, tracks'⟩

/-- **A run of updates** keeps its configuration, and follows the latest loss. -/
theorem tracks_updates {config : AlinkConfig R} (allowed : config.allowIdr = true)
    (calls : List Call) :
    ((updates libm).after (AlinkController.create config) calls).config = config ∧
      Tracks 1 (latest Call.lossy calls)
        ((updates libm).after (AlinkController.create config) calls) := by
  induction calls using List.reverseRecOn with
  | nil => exact ⟨rfl, tracks_create config⟩
  | append_singleton calls call ih =>
      obtain ⟨same, tracks⟩ := ih
      rw [Mealy.after_concat, latest_concat]
      refine ⟨(AlinkController.config_update libm _ call).trans same, ?_⟩
      exact (tracks.update libm (by rw [same]; exact allowed) call).2

/-- The code in the message of an update, from the losses up to it. -/
theorem idrCode_updates {config : AlinkConfig R} (allowed : config.allowIdr = true)
    {calls : List Call} {t : ℕ} (inside : t < calls.length) :
    ∃ controller : AlinkController R,
      ((updates libm).outputs (AlinkController.create config) calls)[t]? =
          some (controller.update libm calls[t]).2 ∧
        (controller.update libm calls[t]).2.idrCode =
          requestCode config.idrMaxMessages.toInt (latest Call.lossy (calls.take (t + 1))) := by
  have here : calls[t]? = some calls[t] := List.getElem?_eq_getElem inside
  obtain ⟨same, tracks⟩ := tracks_updates libm allowed (calls.take t)
  refine ⟨(updates libm).after (AlinkController.create config) (calls.take t), ?_, ?_⟩
  · have single : ∀ (controller : AlinkController R) (call : Call),
        ((updates libm).step controller call).2 = [(controller.update libm call).2] :=
      fun _ _ => rfl
    rw [Mealy.getElem?_outputs (updates libm) single, here]
    rfl
  · obtain ⟨code, -⟩ := tracks.update libm (by rw [same]; exact allowed) calls[t]
    rw [code, same, latest_take_succ Call.lossy here]

/-- A message has the ten fields of every message, and an eleventh if it carries a code. -/
theorem length_fieldsOf_update {controller : AlinkController R} {call : Call}
    (noColon : ':' ∉ (controller.update libm call).2.idrCode) :
    (fieldsOf (controller.update libm call).2.message).length =
      if (controller.update libm call).2.idrCode = [] then 10 else 11 := by
  rw [fieldsOf_update libm controller call noColon]
  split
  · rfl
  · rfl

/-- **The window of a request.** With keyframe requests allowed, the message of an update has an
eleventh field exactly when one of the last `idr_max_messages` updates, itself included, reported a
loss. The field is the code drawn at the latest of them. Every other message has ten fields. -/
theorem updates_request {config : AlinkConfig R} (allowed : config.allowIdr = true)
    {calls : List Call} {t : ℕ} (inside : t < calls.length) :
    ∃ result, ((updates libm).outputs (AlinkController.create config) calls)[t]? = some result ∧
      ((fieldsOf result.message).length = 11 ↔
        0 < config.idrMaxMessages.toInt ∧
          ∃ s : ℕ, (t : ℤ) - config.idrMaxMessages.toInt < s ∧ s ≤ t ∧
            HoldsAt Call.lossy calls s) ∧
      (∀ (s : ℕ) (call : Call), (t : ℤ) - config.idrMaxMessages.toInt < s →
        LatestAt Call.lossy calls t s → calls[s]? = some call →
          (fieldsOf result.message)[10]? = some call.drawn.letters ∧
            result.idrCode = call.drawn.letters) ∧
      ((fieldsOf result.message).length ≠ 11 →
        (fieldsOf result.message).length = 10 ∧ result.idrCode = []) := by
  obtain ⟨controller, at', code⟩ := idrCode_updates libm allowed inside
  have noColon : ':' ∉ (controller.update libm calls[t]).2.idrCode := by
    rw [code]
    exact requestCode_colon _ _
  have lengths := length_fieldsOf_update libm noColon
  refine ⟨_, at', ?_, ?_, ?_⟩
  · constructor
    · intro eleven
      by_contra outside
      have empty : (controller.update libm calls[t]).2.idrCode = [] := by
        rw [code, requestCode_eq_nil_iff inside]
        rintro ⟨s, window, le, lossy⟩
        exact outside ⟨by omega, s, window, le, lossy⟩
      rw [lengths, if_pos empty] at eleven
      exact absurd eleven (by decide)
    · rintro ⟨-, loss⟩
      rw [lengths, if_neg]
      rw [code, requestCode_eq_nil_iff inside]
      exact fun outside => outside loss
  · intro s call window latestLoss here
    have carried : (controller.update libm calls[t]).2.idrCode = call.drawn.letters :=
      code.trans (requestCode_of_latestAt inside window latestLoss here)
    rw [fieldsOf_update libm controller calls[t] noColon, carried,
      if_neg call.drawn.letters_ne_nil]
    exact ⟨rfl, rfl⟩
  · intro other
    by_cases empty : (controller.update libm calls[t]).2.idrCode = []
    · rw [lengths, if_pos empty]
      exact ⟨rfl, empty⟩
    · rw [lengths, if_neg empty] at other
      exact absurd rfl other

/-- A snapshot with this many losses, and nothing else in it. -/
def lossCall (lost : ℕ) : Call where
  snapshot := { packetsLost := lost }
  unixTimeS := 0
  drawn := { letters := ['q', 'w', 'e', 'r'], length_eq := rfl, lowercase := rfl }

/-- A hundred packets on two antennas. -/
def trafficCall (lost : ℕ) : Call where
  snapshot :=
    { packetsAll := 100
      packetsLost := lost
      bestRssi := -60
      bestSnr := 20
      numAntennas := 2 }
  unixTimeS := 0
  drawn := (lossCall 0).drawn

/-- The second of two updates, behind a loss at the first. -/
theorem updates_request_second :
    ∃ result, ((updates doubles).outputs (AlinkController.create { idrMaxMessages := 2 })
        [lossCall 1, lossCall 0])[1]? = some result ∧
      ((fieldsOf result.message).length = 11 ↔
        0 < Int32.toInt 2 ∧
          ∃ s : ℕ, ((1 : ℕ) : ℤ) - Int32.toInt 2 < s ∧ s ≤ 1 ∧
            HoldsAt Call.lossy [lossCall 1, lossCall 0] s) ∧
      (∀ (s : ℕ) (call : Call), ((1 : ℕ) : ℤ) - Int32.toInt 2 < s →
        LatestAt Call.lossy [lossCall 1, lossCall 0] 1 s →
        [lossCall 1, lossCall 0][s]? = some call →
          (fieldsOf result.message)[10]? = some call.drawn.letters ∧
            result.idrCode = call.drawn.letters) ∧
      ((fieldsOf result.message).length ≠ 11 →
        (fieldsOf result.message).length = 10 ∧ result.idrCode = []) :=
  updates_request doubles rfl (by decide)

/-! ## Changes of the configuration -/

/-- A result without a request. -/
def AlinkResult.Silent (result : AlinkResult R) : Prop :=
  (fieldsOf result.message).length = 10 ∧ result.idrCode = []

theorem AlinkController.silent_update_iff (controller : AlinkController R) (call : Call) :
    (controller.update libm call).2.Silent ↔ (controller.update libm call).2.idrCode = [] := by
  constructor
  · exact fun silent => silent.2
  · intro empty
    have noColon : ':' ∉ (controller.update libm call).2.idrCode := by
      rw [empty]
      exact List.not_mem_nil
    rw [AlinkResult.Silent, length_fieldsOf_update libm noColon, if_pos empty]
    exact ⟨rfl, empty⟩

/-- What an update puts into its message is what is pending behind the start of its request. -/
theorem AlinkController.idrCode_update_eq_nil_iff (controller : AlinkController R)
    (call : Call) :
    (controller.update libm call).2.idrCode = [] ↔
      ¬ (controller.requestIdr call.snapshot call.drawn).IdrPending := by
  have shown : (controller.update libm call).2.idrCode =
      ((controller.requestIdr call.snapshot call.drawn).filterNoise
        call.snapshot).1.repeatIdr.2 := rfl
  rw [shown, ← pending_filterNoise, repeatIdr]
  split
  · rename_i pends
    exact iff_of_false pends.1 (fun none => none pends)
  · rename_i none
    exact iff_of_true rfl none

/-- An update under a configuration without requests is silent exactly when nothing is pending, or
when a loss of its own replaces what is. -/
theorem AlinkController.silent_iff_of_off {controller : AlinkController R}
    (off : controller.config.RequestsOff) (call : Call) :
    (controller.update libm call).2.Silent ↔
      ¬ controller.IdrPending ∨
        (0 < call.snapshot.packetsLost ∧ controller.config.allowIdr = true) := by
  rw [silent_update_iff, idrCode_update_eq_nil_iff, pending_requestIdr_iff off, not_and_or,
    not_not]

/-- Updates under a configuration without requests carry none. -/
def SilentWhenOff (controller : AlinkController R) (event : Event R) : Prop :=
  controller.config.RequestsOff → ∀ result ∈ ((machine libm).step controller event).2,
    result.Silent

/-- An update under a configuration without requests finds none pending, or reports a loss while the
configuration allows requests and bounds them by zero or less. -/
def SettledWhenOff (controller : AlinkController R) (event : Event R) : Prop :=
  ∀ call, event = .update call → controller.config.RequestsOff →
    ¬ controller.IdrPending ∨
      (0 < call.snapshot.packetsLost ∧ controller.config.allowIdr = true)

theorem silentWhenOff_iff (controller : AlinkController R) (event : Event R) :
    SilentWhenOff libm controller event ↔ SettledWhenOff controller event := by
  cases event with
  | update call =>
      constructor
      · rintro silent _ ⟨⟩ off
        exact (controller.silent_iff_of_off libm off call).mp
          (silent off _ (List.mem_singleton_self _))
      · intro settled off result among
        obtain rfl := List.mem_singleton.mp among
        exact (controller.silent_iff_of_off libm off call).mpr (settled call rfl off)
  | setConfig config =>
      constructor
      · rintro - _ ⟨⟩
      · rintro - - _ ⟨⟩

/-- **Silence under any sequence of updates and changes.** Every update under a configuration
without requests is silent if and only if every such update finds none pending or replaces it. -/
theorem silent_iff (config : AlinkConfig R) (events : List (Event R)) :
    (machine libm).EveryStep (fun controller _ event => SilentWhenOff libm controller event)
        (AlinkController.create config) events ↔
      (machine libm).EveryStep (fun controller _ event => SettledWhenOff controller event)
        (AlinkController.create config) events := by
  constructor
  · intro silent earlier event later split
    exact (silentWhenOff_iff libm _ event).mp (silent earlier event later split)
  · intro settled earlier event later split
    exact (silentWhenOff_iff libm _ event).mpr (settled earlier event later split)

/-- A request is still pending when the configuration stops asking for any. -/
theorem not_silent_reconfigured :
    ¬ (machine doubles).EveryStep
      (fun controller _ event => SilentWhenOff doubles controller event)
      (AlinkController.create {})
      [.update (lossCall 1), .setConfig { allowIdr := false }, .update (lossCall 0)] := by
  intro silent
  have last := silent [.update (lossCall 1), .setConfig { allowIdr := false }]
    (.update (lossCall 0)) [] rfl
  have settled := (silentWhenOff_iff doubles _ _).mp last (lossCall 0) rfl (.inl rfl)
  -- Nineteen messages of the twenty are still to come.
  have tracks := ((tracks_create (R := Float) {}).update doubles rfl (lossCall 1)).2
  rw [latestStep, if_pos (show (lossCall 1).lossy = true from rfl)] at tracks
  have same := (AlinkController.create (R := Float) {}).config_update doubles (lossCall 1)
  obtain ⟨code, remaining⟩ := tracks.pending _ _ rfl (by rw [same]; decide)
  rcases settled with none | ⟨lost, -⟩
  · apply none
    rw [AlinkController.pending_iff]
    refine ⟨fun empty => (lossCall 1).drawn.letters_ne_nil (code.symm.trans empty), ?_⟩
    refine lt_of_lt_of_eq ?_ remaining.symm
    rw [same]
    decide
  · exact absurd lost (by decide)

/-- Under a configuration without requests nothing becomes pending. -/
theorem AlinkController.not_pending_update {controller : AlinkController R}
    (off : controller.config.RequestsOff) (none : ¬ controller.IdrPending) (call : Call) :
    ¬ (controller.update libm call).1.IdrPending := by
  have requested : ¬ (controller.requestIdr call.snapshot call.drawn).IdrPending := by
    rw [pending_requestIdr_iff off]
    exact fun both => none both.1
  rw [← pending_filterNoise _ call.snapshot] at requested
  have after : (controller.update libm call).1 =
      ((controller.requestIdr call.snapshot call.drawn).filterNoise
        call.snapshot).1.repeatIdr.1 := rfl
  rw [after, repeatIdr_of_not_pending requested]
  exact requested

/-- Where no change to a configuration without requests finds one pending, every update under such
a configuration is silent. -/
theorem silent_of_settledChanges {config : AlinkConfig R} {events : List (Event R)}
    (settled : (machine libm).EveryStep
      (fun controller _ event => ∀ config, event = .setConfig config → config.RequestsOff →
        ¬ controller.IdrPending)
      (AlinkController.create config) events) :
    (machine libm).EveryStep (fun controller _ event => SilentWhenOff libm controller event)
      (AlinkController.create config) events := by
  rintro earlier event later rfl
  have kept : ((machine libm).after (AlinkController.create config) earlier).config.RequestsOff →
      ¬ ((machine libm).after (AlinkController.create config) earlier).IdrPending := by
    refine Mealy.invariant_of_everyStep
      (fun controller _ => controller.config.RequestsOff → ¬ controller.IdrPending)
      ?_ ?_ settled.front
    · rintro - ⟨code, -⟩
      exact code rfl
    · rintro controller - (call | changed) none calm
      · intro off
        have same : ((machine libm).step controller (.update call)).1.config =
            controller.config := controller.config_update libm call
        rw [same] at off
        exact controller.not_pending_update libm off (none off) call
      · exact fun off => calm changed rfl off
  exact (silentWhenOff_iff libm _ event).mpr fun _ _ off => .inl (kept off)

end Alink

end MobileGs
