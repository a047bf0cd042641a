import TtRiingd.Drivers.TTRiingQuad
import TtRiingd.Drivers.Pairing
import TtRiingd.Library.Table

/-!
# A speed batch and the cached statistics

`update_speed_batch` talks to the device first, entry by entry, and stops at the first exchange that
fails. Only when all exchanges are done does it write what they returned into `fans`.
-/

namespace TtRiingd.Drivers

namespace TTRiingQuad

def entryFrames (entry : Nat × UInt8) : List (List UInt8) :=
  [(Command.setSpeed (UInt8.ofNat entry.1) entry.2).toBytes, (Command.getData (UInt8.ofNat entry.1)).toBytes]

/-- The exchanges of a batch, one `SetSpeed` and one `GetData` an entry, and what each `GetData` read. -/
inductive Exchanges : List (Nat × UInt8) → HidDevice → List (Nat × UInt8 × UInt16) → HidDevice → Prop
  | nil {dev} : Exchanges [] dev [] dev
  | cons {entry rest dev middle next after speed rpm results}
      (sped : setSpeed (UInt8.ofNat entry.1) entry.2 dev = .ok () middle)
      (read : getData (UInt8.ofNat entry.1) middle = .ok (speed, rpm) next)
      (others : Exchanges rest next results after) :
      Exchanges (entry :: rest) dev ((entry.1, speed, rpm) :: results) after

def reported (reading : Option (UInt8 × UInt16)) (fan : Fan) : Fan :=
  match reading with
  | some (speed, rpm) => fan.updateStats speed rpm
  | none => fan

/-! ## One entry -/

theorem onDevice_ok {α : Type} {call : EStateM Error HidDevice α} {ctrl after : TTRiingQuad} {value : α}
    (result : onDevice call ctrl = .ok value after) :
    call ctrl.dev = .ok value after.dev ∧ after = { ctrl with dev := after.dev } := by
  unfold onDevice at result
  split at result <;> cases result
  exact ⟨‹_›, rfl⟩

theorem onDevice_error {α : Type} {call : EStateM Error HidDevice α} {ctrl after : TTRiingQuad} {fault : Fault}
    (result : onDevice call ctrl = .error fault after) :
    ∃ e, fault = .error e ∧ call ctrl.dev = .error e after.dev ∧ after = { ctrl with dev := after.dev } := by
  unfold onDevice at result
  split at result <;> cases result
  exact ⟨_, rfl, ‹_›, rfl⟩

theorem request_ok_received {cmd : Command} {dev after : HidDevice} {response : Response}
    (result : request cmd dev = .ok response after) : after.received = dev.received ++ [cmd.toBytes] := by
  have sent := request_received cmd dev
  rw [result, EStateM.Result.state_ok] at sent
  by_cases sends : Sends dev cmd
  · rw [sent, if_pos sends]
  · obtain ⟨e, writes, failed⟩ := request_unsent sends
    rw [failed] at result
    contradiction

theorem request_received_cases (cmd : Command) (dev : HidDevice) :
    (request cmd dev).state.received = dev.received ∨
      (request cmd dev).state.received = dev.received ++ [cmd.toBytes] := by
  rw [request_received]
  by_cases sends : Sends dev cmd
  · exact .inr (if_pos sends)
  · exact .inl (if_neg sends)

theorem setSpeed_received {port speed : UInt8} {dev after : HidDevice}
    (result : setSpeed port speed dev = .ok () after) :
    after.received = dev.received ++ [(Command.setSpeed port speed).toBytes] :=
  request_ok_received (requestStatus_ok result)

theorem getData_received {port speed : UInt8} {rpm : UInt16} {dev after : HidDevice}
    (result : getData port dev = .ok (speed, rpm) after) :
    after.received = dev.received ++ [(Command.getData port).toBytes] := by
  unfold getData at result
  split at result <;> cases result
  exact request_ok_received ‹_›

theorem processFanInner_ok {idx : Nat} {speed : UInt8} {ctrl after : TTRiingQuad} {reading : UInt8 × UInt16}
    (result : processFanInner idx speed ctrl = .ok reading after) :
    (∃ middle, setSpeed (UInt8.ofNat idx) speed ctrl.dev = .ok () middle ∧
      getData (UInt8.ofNat idx) middle = .ok reading after.dev) ∧ after = { ctrl with dev := after.dev } := by
  obtain ⟨⟨⟩, middle, sped, read⟩ := EStateM.bind_eq_ok.mp result
  obtain ⟨sped, same⟩ := onDevice_ok sped
  obtain ⟨read, same'⟩ := onDevice_ok read
  rw [same] at same'
  exact ⟨⟨middle.dev, sped, read⟩, same'⟩

/-- A failed entry has sent neither, one or both of its frames. -/
theorem processFanInner_error {idx : Nat} {speed : UInt8} {ctrl after : TTRiingQuad} {fault : Fault}
    (result : processFanInner idx speed ctrl = .error fault after) :
    (∃ e, fault = .error e) ∧ after = { ctrl with dev := after.dev } ∧
      ∃ part, part <+: entryFrames (idx, speed) ∧ after.dev.received = ctrl.dev.received ++ part := by
  cases first : onDevice (setSpeed (UInt8.ofNat idx) speed) ctrl with
  | error e middle =>
      have failed : processFanInner idx speed ctrl = .error e middle := EStateM.bind_of_error first
      rw [failed] at result
      cases result
      obtain ⟨cause, rfl, failed, same⟩ := onDevice_error first
      refine ⟨⟨cause, rfl⟩, same, ?_⟩
      have sent := request_received_cases (.setSpeed (UInt8.ofNat idx) speed) ctrl.dev
      have state := requestStatus_state (.setSpeed (UInt8.ofNat idx) speed)
        "Invalid set speed response: Expected status 0xFC" "Invalid set speed responce" ctrl.dev
      change (setSpeed (UInt8.ofNat idx) speed ctrl.dev).state = _ at state
      rw [← state, failed, EStateM.Result.state_error] at sent
      rcases sent with none_sent | one_sent
      · exact ⟨[], List.nil_prefix, by rw [none_sent, List.append_nil]⟩
      · exact ⟨[_], ⟨[_], rfl⟩, one_sent⟩
  | ok value middle =>
      have next : processFanInner idx speed ctrl = onDevice (getData (UInt8.ofNat idx)) middle :=
        EStateM.bind_of_ok first
      rw [next] at result
      obtain ⟨sped, same⟩ := onDevice_ok first
      obtain ⟨cause, rfl, failed, same'⟩ := onDevice_error result
      rw [same] at same'
      refine ⟨⟨cause, rfl⟩, same', ?_⟩
      have sent := request_received_cases (.getData (UInt8.ofNat idx)) middle.dev
      rw [← getData_state, failed, EStateM.Result.state_error, setSpeed_received sped] at sent
      rcases sent with one_sent | both_sent
      · exact ⟨[_], ⟨[_], rfl⟩, one_sent⟩
      · exact ⟨entryFrames (idx, speed), List.prefix_refl _, by rw [both_sent, List.append_assoc]; rfl⟩

/-! ## The exchanges of a batch -/

theorem Exchanges.received {batch : List (Nat × UInt8)} {dev after : HidDevice}
    {results : List (Nat × UInt8 × UInt16)} (exchanged : Exchanges batch dev results after) :
    after.received = dev.received ++ batch.flatMap entryFrames := by
  induction exchanged with
  | nil => simp
  | cons sped read others ih =>
      rw [ih, getData_received read, setSpeed_received sped, List.flatMap_cons, entryFrames]
      simp only [List.append_assoc, List.cons_append, List.nil_append]

theorem Exchanges.channels {batch : List (Nat × UInt8)} {dev after : HidDevice}
    {results : List (Nat × UInt8 × UInt16)} (exchanged : Exchanges batch dev results after) :
    results.map Prod.fst = batch.map Prod.fst := by
  induction exchanged with
  | nil => rfl
  | cons sped read others ih => rw [List.map_cons, List.map_cons, ih]

theorem Exchanges.range {batch : List (Nat × UInt8)} {dev after : HidDevice}
    {results : List (Nat × UInt8 × UInt16)} (exchanged : Exchanges batch dev results after) (count : Nat) :
    (∀ entry ∈ results, 1 ≤ entry.1 ∧ entry.1 ≤ count) ↔ ∀ entry ∈ batch, 1 ≤ entry.1 ∧ entry.1 ≤ count := by
  calc (∀ entry ∈ results, 1 ≤ entry.1 ∧ entry.1 ≤ count)
      ↔ ∀ channel ∈ results.map Prod.fst, 1 ≤ channel ∧ channel ≤ count := by rw [List.forall_mem_map]
    _ ↔ ∀ channel ∈ batch.map Prod.fst, 1 ≤ channel ∧ channel ≤ count := by rw [exchanged.channels]
    _ ↔ ∀ entry ∈ batch, 1 ≤ entry.1 ∧ entry.1 ≤ count := by rw [List.forall_mem_map]

theorem processBatch_exchanges {batch : List (Nat × UInt8)} {ctrl after : TTRiingQuad}
    {results : List (Nat × UInt8 × UInt16)} (result : processBatch batch ctrl = .ok results after) :
    Exchanges batch ctrl.dev results after.dev ∧ after = { ctrl with dev := after.dev } := by
  induction batch generalizing ctrl results with
  | nil =>
      cases result
      exact ⟨.nil, rfl⟩
  | cons entry rest ih =>
      obtain ⟨answer, middle, first, others⟩ := EStateM.bind_eq_ok.mp result
      obtain ⟨more, last, others, done⟩ := EStateM.bind_eq_ok.mp others
      obtain ⟨data, state, exchanged, made⟩ := EStateM.bind_eq_ok.mp first
      cases made
      cases done
      obtain ⟨⟨between, sped, read⟩, same⟩ := processFanInner_ok exchanged
      obtain ⟨others, same'⟩ := ih others
      rw [same] at same'
      exact ⟨.cons sped read others, same'⟩

theorem processBatch_cons {entry : Nat × UInt8} {rest : List (Nat × UInt8)} {ctrl middle : TTRiingQuad}
    {reading : UInt8 × UInt16} (first : processFanInner entry.1 entry.2 ctrl = .ok reading middle) :
    processBatch (entry :: rest) ctrl =
      (do let more ← processBatch rest; pure ((entry.1, reading) :: more)) middle := by
  have made : (do let data ← processFanInner entry.1 entry.2; pure (entry.1, data)) ctrl =
      .ok (entry.1, reading) middle := EStateM.bind_of_ok first
  exact EStateM.bind_of_ok made

theorem processBatch_error {batch : List (Nat × UInt8)} {ctrl after : TTRiingQuad} {fault : Fault}
    (result : processBatch batch ctrl = .error fault after) :
    ∃ done failing later results middle, batch = done ++ failing :: later ∧
      Exchanges done ctrl.dev results middle ∧
        processFanInner failing.1 failing.2 { ctrl with dev := middle } = .error fault after := by
  induction batch generalizing ctrl with
  | nil => contradiction
  | cons entry rest ih =>
      cases first : processFanInner entry.1 entry.2 ctrl with
      | error e middle =>
          have failed : processBatch (entry :: rest) ctrl = .error e middle :=
            EStateM.bind_of_error (EStateM.bind_of_error first)
          rw [failed] at result
          cases result
          exact ⟨[], entry, rest, [], ctrl.dev, rfl, .nil, first⟩
      | ok reading middle =>
          obtain ⟨⟨between, sped, read⟩, same⟩ := processFanInner_ok first
          cases others : processBatch rest middle with
          | ok more last =>
              rw [processBatch_cons first, EStateM.bind_of_ok others] at result
              contradiction
          | error e last =>
              rw [processBatch_cons first, EStateM.bind_of_error others] at result
              cases result
              obtain ⟨done, failing, later, results, last, rfl, exchanged, failed⟩ := ih others
              rw [same] at failed
              exact ⟨entry :: done, failing, later, _, last, rfl, .cons sped read exchanged, failed⟩

/-! ## Writing the results -/

theorem updateFan_ok {channel : Nat} {speed : UInt8} {rpm : UInt16} {ctrl after : TTRiingQuad}
    (result : updateFan channel speed rpm ctrl = .ok () after) :
    after.dev = ctrl.dev ∧ after.name = ctrl.name ∧ ∀ index, after.fans[index]? =
      (ctrl.fans[index]?).map (reported (if channel = index + 1 then some (speed, rpm) else none)) := by
  unfold updateFan at result
  split at result
  · contradiction
  · rename_i position
    split at result
    · rename_i fan listed
      cases result
      refine ⟨rfl, rfl, ?_⟩
      intro index
      rw [List.getElem?_set]
      by_cases same : position = index
      · have inside := (List.getElem?_eq_some_iff.mp listed).1
        rw [if_pos same, if_pos inside, if_pos (by rw [same]), ← same, listed]
        rfl
      · rw [if_neg same, if_neg (by omega)]
        exact Option.map_id'.symm
    · contradiction

theorem reported_or (last : Option (UInt8 × UInt16)) (first : Option (UInt8 × UInt16)) (fan : Fan) :
    reported last (reported first fan) = reported (last.or first) fan := by
  cases last with
  | none => rfl
  | some reading =>
      cases first with
      | none => rfl
      | some earlier => rfl

theorem updateFans_ok {results : List (Nat × UInt8 × UInt16)} {ctrl after : TTRiingQuad}
    (result : (results.forM fun entry => updateFan entry.1 entry.2.1 entry.2.2) ctrl = .ok () after) :
    after.dev = ctrl.dev ∧ after.name = ctrl.name ∧ ∀ index, after.fans[index]? =
      (ctrl.fans[index]?).map (reported (results.lastValue (index + 1))) := by
  induction results generalizing ctrl with
  | nil =>
      cases result
      exact ⟨rfl, rfl, fun index => Option.map_id'.symm⟩
  | cons entry rest ih =>
      obtain ⟨middle, first, others⟩ := EStateM.forM_cons_eq_ok.mp result
      obtain ⟨dev, name, written⟩ := updateFan_ok first
      obtain ⟨dev', name', later⟩ := ih others
      refine ⟨dev'.trans dev, name'.trans name, ?_⟩
      intro index
      rw [later, written, Option.map_map]
      congr 1
      funext fan
      exact reported_or _ _ fan

theorem updateFans_succeeds (results : List (Nat × UInt8 × UInt16)) (ctrl : TTRiingQuad) :
    (∃ after, (results.forM fun entry => updateFan entry.1 entry.2.1 entry.2.2) ctrl = .ok () after) ↔
      ∀ entry ∈ results, 1 ≤ entry.1 ∧ entry.1 ≤ ctrl.fans.length := by
  have keeps : ∀ (entry : Nat × UInt8 × UInt16) (state after : TTRiingQuad),
      state.fans.length = ctrl.fans.length →
      updateFan entry.1 entry.2.1 entry.2.2 state = .ok () after → after.fans.length = ctrl.fans.length := by
    intro entry state after fans result
    have later := updateFan_later entry.1 entry.2.1 entry.2.2 state
    rw [result] at later
    exact later.fans.trans fans
  exact EStateM.forM_succeeds_iff keeps (fun entry state fans => updateFan_succeeds _ _ fans) results rfl

/-! ## The whole batch -/

structure BatchDone (batch : List (Nat × UInt8)) (before after : TTRiingQuad) : Prop where
  name : after.name = before.name
  sent : after.dev.received = before.dev.received ++ batch.flatMap entryFrames
  written : ∃ results, Exchanges batch before.dev results after.dev ∧
    ∀ earlier channel speed rpm later, results = earlier ++ (channel, speed, rpm) :: later →
      channel ∉ later.map Prod.fst → after.fans[channel - 1]? = some ⟨speed, rpm⟩
  others : after.fans.length = before.fans.length ∧
    ∀ index, index + 1 ∉ batch.map Prod.fst → after.fans[index]? = before.fans[index]?

structure BatchFailed (batch : List (Nat × UInt8)) (before after : TTRiingQuad) (fault : Fault) : Prop where
  error : ∃ e, fault = .error e
  unchanged : after.fans = before.fans ∧ after.name = before.name
  sent : ∃ done failing later results middle part, batch = done ++ failing :: later ∧
    Exchanges done before.dev results middle ∧
    processFanInner failing.1 failing.2 { before with dev := middle } = .error fault after ∧
    part <+: entryFrames failing ∧
    after.dev.received = before.dev.received ++ done.flatMap entryFrames ++ part

theorem updateSpeedBatch_done {batch : List (Nat × UInt8)} {ctrl middle : TTRiingQuad}
    {results : List (Nat × UInt8 × UInt16)} (processed : processBatch batch ctrl = .ok results middle)
    (range : ∀ entry ∈ batch, 1 ≤ entry.1 ∧ entry.1 ≤ ctrl.fans.length) :
    ∃ after, updateSpeedBatch batch ctrl = .ok () after ∧ BatchDone batch ctrl after := by
  obtain ⟨exchanged, same⟩ := processBatch_exchanges processed
  have fans : middle.fans = ctrl.fans := by rw [same]
  have addressed : ∀ entry ∈ results, 1 ≤ entry.1 ∧ entry.1 ≤ middle.fans.length := by
    rw [fans]
    exact (exchanged.range _).mpr range
  obtain ⟨after, written⟩ := (updateFans_succeeds results middle).mpr addressed
  obtain ⟨dev, name, values⟩ := updateFans_ok written
  have complete : updateSpeedBatch batch ctrl = .ok () after := (EStateM.bind_of_ok processed).trans written
  rw [← dev] at exchanged
  rw [fans] at values addressed
  have count := updateSpeedBatch_later batch ctrl
  rw [complete] at count
  refine ⟨after, complete, by rw [name, same], exchanged.received, ⟨results, exchanged, ?_⟩, count.fans, ?_⟩
  · intro earlier channel speed rpm later split last
    obtain ⟨positive, inside⟩ := addressed (channel, speed, rpm) (by simp [split])
    simp only at positive inside
    rw [values, Nat.sub_add_cancel positive, split, List.lastValue_of_last last,
      List.getElem?_eq_getElem (by omega)]
    rfl
  · intro index unaddressed
    rw [values, List.lastValue_eq_none.mpr (by rwa [exchanged.channels])]
    exact Option.map_id'

theorem updateSpeedBatch_panics {batch : List (Nat × UInt8)} {ctrl middle : TTRiingQuad}
    {results : List (Nat × UInt8 × UInt16)} (processed : processBatch batch ctrl = .ok results middle)
    (beyond : ¬ ∀ entry ∈ batch, 1 ≤ entry.1 ∧ entry.1 ≤ ctrl.fans.length) :
    ∃ after, updateSpeedBatch batch ctrl = .error .panic after := by
  obtain ⟨exchanged, same⟩ := processBatch_exchanges processed
  have fans : middle.fans = ctrl.fans := by rw [same]
  rw [← exchanged.range, ← fans, ← updateFans_succeeds] at beyond
  have writes : updateSpeedBatch batch ctrl =
      (results.forM fun entry => updateFan entry.1 entry.2.1 entry.2.2) middle := EStateM.bind_of_ok processed
  rw [writes]
  cases written : (results.forM fun entry => updateFan entry.1 entry.2.1 entry.2.2) middle with
  | ok value after => exact absurd ⟨after, written⟩ beyond
  | error fault after =>
      have panic : fault = .panic :=
        EStateM.forM_error (fun entry state e after failed => updateFan_error failed) results written
      exact ⟨after, by rw [panic]⟩

theorem updateSpeedBatch_failed {batch : List (Nat × UInt8)} {ctrl after : TTRiingQuad} {fault : Fault}
    (processed : processBatch batch ctrl = .error fault after) : BatchFailed batch ctrl after fault := by
  obtain ⟨done, failing, later, results, middle, rfl, exchanged, failed⟩ := processBatch_error processed
  obtain ⟨error, same, part, partial_sent, sent⟩ := processFanInner_error failed
  refine ⟨error, ?_, done, failing, later, results, middle, part, rfl, exchanged, failed, partial_sent, ?_⟩
  · rw [same]
    exact ⟨rfl, rfl⟩
  · rw [sent, exchanged.received]

end TTRiingQuad

end TtRiingd.Drivers
