import TtRiingd.Core.Daemon
import TtRiingd.Providers.LitColors

/-!
# From the effects to the wire

The daemon with the two tasks of the colour service. The service reads the configuration that the daemon
holds when it is asked to prepare an update, and what its transmit task reads from the double buffer goes
to the controllers.
-/

namespace TtRiingd.Core
open Drivers Providers FanColor

structure Lighting where
  daemon : Daemon
  tasks : ColorTasks

inductive LightingAct where
  | daemon (act : DaemonAct)
  | color (act : ColorAct)

namespace Lighting

def entriesOf (buffer : Buffer) : List (String × ControllerColorBuffer) :=
  buffer.entries.map fun entry => (entry.1, entry.2)

def step (lighting : Lighting) : LightingAct → Option Lighting
  -- Colours come from the transmit task alone.
  | .daemon (.transmit _) => none
  | .daemon act => (lighting.daemon.step act).map fun daemon => { lighting with daemon }
  | .color .setColors =>
      match lighting.tasks.buffers.reader with
      | .reading slot => do
          let tasks ← lighting.tasks.step .setColors
          let daemon ← lighting.daemon.step (.transmit (entriesOf (lighting.tasks.buffers.slots slot).content))
          some { daemon, tasks }
      | _ => none
  | .color act => (lighting.tasks.step act).map fun tasks => { lighting with tasks }

def Held (daemon : Daemon) (config : Config) : Prop := config ∈ daemon.configs

/-- The service is asked to prepare what the daemon holds, and its streams yield what they do at some time. -/
def Feeds (sin : F32 → F32) (lighting : Lighting) : LightingAct → Prop
  | .daemon _ => True
  | .color act => Streams sin (Held lighting.daemon) lighting.tasks act

def Starts (host : Host) (first : Lighting) : Prop :=
  Daemon.start host = .ok first.daemon ∧ first.tasks = .new host.config

def Shines (sin : F32 → F32) (host : Host) : Lighting → Prop :=
  Machine.Reachable step (Starts host) (Feeds sin)

/-! ## What the LEDs of a device are sent -/

/-- A frame that sets the LEDs of a port gives all of them one colour, and one meant for the fan. -/
def LitFrame (meant : FanRef → Rgb → Prop) (controllerId : String) (frame : List UInt8) : Prop :=
  ∀ port mode colors, frame = (Command.setRgb port mode colors).toBytes →
    ∃ rgb, meant ⟨controllerId, port.toNat⟩ rgb ∧ ∀ color ∈ colors, color = rgb

theorem LitFrame.of_other {meant : FanRef → Rgb → Prop} {controllerId : String} {cmd : Command}
    (other : ∀ port mode colors, cmd ≠ .setRgb port mode colors) : LitFrame meant controllerId cmd.toBytes :=
  fun port mode colors same => absurd (toBytes_injective same) (other port mode colors)

theorem LitFrame.mono {meant wider : FanRef → Rgb → Prop} {controllerId : String} {frame : List UInt8}
    (more : ∀ fan rgb, meant fan rgb → wider fan rgb) (lit : LitFrame meant controllerId frame) :
    LitFrame wider controllerId frame := by
  intro port mode colors same
  obtain ⟨rgb, allowed, single⟩ := lit port mode colors same
  exact ⟨rgb, more _ _ allowed, single⟩

theorem meant_channel {given : Config → Prop} {fan : FanRef} {rgb : Rgb} (meant : Meant given fan rgb) :
    fan.channel < 256 := by
  obtain ⟨config, effect, -, -, -, mapping, -, -, target⟩ := meant
  obtain ⟨fanTarget, -, rfl⟩ := List.mem_map.mp target
  exact fanTarget.fanIdx.toNat_lt

theorem litFrame_of_lit {given : Config → Prop} {buffer : Buffer} (lit : Lit (Meant given) buffer)
    {controllerId : String} {frame : List UInt8}
    (asked : frame ∈ (BatchCommand.setColors (entriesOf buffer)).frames controllerId) :
    LitFrame (Meant given) controllerId frame := by
  obtain ⟨entry, listed, rfl, pair, member, rfl⟩ := mem_frames_setColors asked
  obtain ⟨stored, held, rfl⟩ := List.mem_map.mp listed
  have leds : pair.2 ∈ ledsOf buffer ⟨stored.1, pair.1⟩ := by
    rw [ledsOf, (AList.mem_entries_iff_lookup buffer stored.1 stored.2).mp held]
    exact List.mem_map_of_mem (List.mem_filter.mpr ⟨member, by simp⟩)
  obtain ⟨rgb, meant, single⟩ := lit.meant _ _ leds
  have port : (UInt8.ofNat pair.1).toNat = pair.1 := UInt8.toNat_ofNat_of_lt' (meant_channel meant)
  intro other mode colors same
  cases toBytes_injective same
  refine ⟨rgb, ?_, single⟩
  rw [port]
  exact meant

/-- The wires have been lit as meant, and so will they be by what the service holds. -/
structure Glows (lighting : Lighting) : Prop where
  wires : ∃ state, lighting.daemon.world.sharedState = some state ∧
    Traced (LitFrame (Meant (Held lighting.daemon))) state.controllers
  painting : Painting (Held lighting.daemon) lighting.tasks

theorem Glows.start {host : Host} {first : Lighting} (starts : Starts host first) : Glows first := by
  obtain ⟨started, fresh⟩ := starts
  have given : Held first.daemon host.config := by
    rw [Held, (Daemon.start_logs started).1]
    exact List.mem_singleton_self _
  have opening : ∀ controllerId, LitFrame (Meant (Held first.daemon)) controllerId Command.init.toBytes :=
    fun _ => .of_other fun _ _ _ => Command.noConfusion
  refine ⟨Daemon.start_traced opening started, ?_⟩
  rw [fresh]
  exact painting_new given

theorem Glows.daemon {lighting : Lighting} (glows : Glows lighting) {act : DaemonAct} {after : Daemon}
    (lit : ∀ controllerId, ∀ frame ∈ lighting.daemon.asks act controllerId,
      LitFrame (Meant (Held lighting.daemon)) controllerId frame)
    (taken : lighting.daemon.step act = some after) : Glows { lighting with daemon := after } := by
  obtain ⟨state, shared, traced⟩ := glows.wires
  obtain ⟨⟨later, configs⟩, -⟩ := Daemon.step_logs taken
  have more : ∀ config, Held lighting.daemon config → Held after config := by
    intro config held
    rw [Held, configs]
    exact List.mem_append_left _ held
  obtain ⟨next, shared', wires⟩ := Daemon.step_traced shared traced lit taken
  exact ⟨⟨next, shared', wires.mono fun _ _ => LitFrame.mono (meant_mono more)⟩, glows.painting.mono more⟩

theorem step_daemon {lighting after : Lighting} {act : DaemonAct} (own : ∀ colors, act ≠ .transmit colors)
    (taken : lighting.step (.daemon act) = some after) :
    ∃ daemon, lighting.daemon.step act = some daemon ∧ after = { lighting with daemon } := by
  have plain : lighting.step (.daemon act) = (lighting.daemon.step act).map fun daemon => { lighting with daemon } := by
    cases act with
    | transmit colors => exact absurd rfl (own colors)
    | _ => rfl
  rw [plain] at taken
  obtain ⟨daemon, ran, same⟩ := Option.map_eq_some_iff.mp taken
  exact ⟨daemon, ran, same.symm⟩

theorem step_color {lighting after : Lighting} {act : ColorAct} (quiet : act ≠ .setColors)
    (taken : lighting.step (.color act) = some after) :
    ∃ tasks, lighting.tasks.step act = some tasks ∧ after = { lighting with tasks } := by
  have plain : lighting.step (.color act) = (lighting.tasks.step act).map fun tasks => { lighting with tasks } := by
    cases act with
    | setColors => exact absurd rfl quiet
    | _ => rfl
  rw [plain] at taken
  obtain ⟨tasks, painted, same⟩ := Option.map_eq_some_iff.mp taken
  exact ⟨tasks, painted, same.symm⟩

theorem step_setColors {lighting after : Lighting} (taken : lighting.step (.color .setColors) = some after) :
    ∃ slot, lighting.tasks.step .setColors = some after.tasks ∧
      lighting.daemon.step (.transmit (entriesOf (lighting.tasks.buffers.slots slot).content)) = some after.daemon := by
  simp only [Lighting.step] at taken
  split at taken
  · rename_i slot reading
    obtain ⟨tasks, painted, taken⟩ := Option.bind_eq_some_iff.mp taken
    obtain ⟨daemon, ran, taken⟩ := Option.bind_eq_some_iff.mp taken
    cases taken
    exact ⟨slot, painted, ran⟩
  · contradiction

theorem Glows.step {sin : F32 → F32} (sine : Sine sin) {lighting after : Lighting} {act : LightingAct}
    (glows : Glows lighting) (feeds : Feeds sin lighting act) (taken : lighting.step act = some after) :
    Glows after := by
  cases act with
  | daemon act =>
      cases act with
      | transmit colors => contradiction
      | tick sensors =>
          obtain ⟨daemon, ran, rfl⟩ := step_daemon (by simp) taken
          apply glows.daemon ?_ ran
          intro controllerId frame member
          simp only [Daemon.asks] at member
          split at member
          · obtain ⟨entry, -, -, pair, -, rfl | rfl⟩ := mem_frames_setSpeeds member
            · exact .of_other fun _ _ _ => Command.noConfusion
            · exact .of_other fun _ _ _ => Command.noConfusion
          · contradiction
      | receive env event | notified service event | serve workerId | die workerId =>
          obtain ⟨daemon, ran, rfl⟩ := step_daemon (by simp) taken
          exact glows.daemon (by simp [Daemon.asks]) ran
  | color act =>
      by_cases sends : act = .setColors
      · subst sends
        obtain ⟨slot, painted, ran⟩ := step_setColors taken
        have streams : Streams sin (Held lighting.daemon) lighting.tasks .setColors := feeds
        have drawn : Painting (Held lighting.daemon) after.tasks := painting_step sine glows.painting streams painted
        have painting : Glows { lighting with tasks := after.tasks } := ⟨glows.wires, drawn⟩
        apply painting.daemon ?_ ran
        intro controllerId frame asked
        exact litFrame_of_lit (glows.painting.slots slot) asked
      · obtain ⟨tasks, painted, rfl⟩ := step_color sends taken
        exact ⟨glows.wires, painting_step sine glows.painting feeds painted⟩

theorem Shines.glows {sin : F32 → F32} (sine : Sine sin) {host : Host} {lighting : Lighting}
    (shines : Shines sin host lighting) : Glows lighting :=
  Machine.Reachable.invariant Glows (fun _ => .start) (fun _ _ _ glows feeds taken => glows.step sine feeds taken) shines

/-! ## The colours on the wire -/

def Sent (lighting : Lighting) (workerId : Nat) (worker : ControllerWorker) (port mode : UInt8)
    (colors : List Rgb) : Prop :=
  ∃ state, lighting.daemon.world.sharedState = some state ∧
    (workersOf state.controllers).lookup workerId = some worker ∧
    (Command.setRgb port mode colors).toBytes ∈ worker.controller.dev.received

theorem colors_are_meant {sin : F32 → F32} (sine : Sine sin) {host : Host} {lighting : Lighting}
    (shines : Shines sin host lighting) {workerId : Nat} {worker : ControllerWorker} {port mode : UInt8}
    {colors : List Rgb} (sent : lighting.Sent workerId worker port mode colors) :
    ∃ config ∈ lighting.daemon.configs, ∃ effect ∈ config.effects, ∃ mapping ∈ config.effectMappings,
      mapping.effect = effect.getId ∧ ⟨worker.controller.name, port.toNat⟩ ∈ mapping.fans ∧
      ∃ rgb, effect.Shows rgb ∧ ∀ color ∈ colors, color = rgb := by
  obtain ⟨state, shared, found, received⟩ := sent
  obtain ⟨other, shared', traced⟩ := (shines.glows sine).wires
  cases shared.symm.trans shared'
  obtain ⟨rgb, meant, single⟩ := traced.received found _ received port mode colors rfl
  obtain ⟨config, effect, held, listed, shows, mapping, mapped, same, target⟩ := meant
  exact ⟨config, held, effect, listed, mapping, mapped, same, target, rgb, shows, single⟩

def fadingHost : Host :=
  { Daemon.steadyHost with
    config := { Daemon.steadyHost.config with
      effects := [.fade "red" ⟨255, 0, 0⟩ 2]
      effectMappings := [⟨"red", [⟨"main", 1⟩]⟩] } }

def oneFrame : List LightingAct :=
  (ColorTasks.calculation fadingHost.config ⟨128, 0, 0⟩ ++ ColorTasks.transmission).map .color

def sentRed (lighting : Lighting) : Bool := lighting.daemon.hasReceived 1 (.setRgb 1 0x24 [⟨128, 0, 0⟩])

theorem colors_are_meant_fadingHost :
    ∃ lighting worker, Shines sinAtStart fadingHost lighting ∧ lighting.Sent 1 worker 1 0x24 [⟨128, 0, 0⟩] ∧
      ∃ config ∈ lighting.daemon.configs, ∃ effect ∈ config.effects, ∃ mapping ∈ config.effectMappings,
        mapping.effect = effect.getId ∧ ⟨worker.controller.name, (1 : UInt8).toNat⟩ ∈ mapping.fans ∧
        ∃ rgb, effect.Shows rgb ∧ ∀ color ∈ [(⟨128, 0, 0⟩ : Rgb)], color = rgb := by
  let first := (Daemon.start fadingHost).map fun daemon => (⟨daemon, .new fadingHost.config⟩ : Lighting)
  obtain ⟨begun, lighting, started, -, ran, red⟩ :=
    Machine.run_of_passes (show Machine.passes step Machine.free first oneFrame sentRed = true by decide +kernel)
  have starts : Starts fadingHost begun := by
    cases opened : Daemon.start fadingHost with
    | error fault => simp [first, opened, Except.map] at started
    | ok daemon =>
        simp only [first, opened, Except.map, Except.ok.injEq] at started
        subst started
        exact ⟨opened, rfl⟩
  have yields : ∀ runner ∈ runnersOf (buildEffects fadingHost.config),
      ∃ elapsed, (⟨128, 0, 0⟩ : Rgb) = runner.2.runner.colorAt sinAtStart elapsed := by
    intro runner member
    cases List.mem_singleton.mp member
    exact ⟨0, by decide +kernel⟩
  have feeds : ∀ label ∈ oneFrame, ∀ state, Feeds sinAtStart state label := by
    intro label listed state
    obtain ⟨act, member, rfl⟩ := List.mem_map.mp listed
    exact streams_of_frame yields act member state.tasks
  have begin_shines : Shines sinAtStart fadingHost begun := .start starts
  have shines := begin_shines.run (Machine.Allowed.of_all feeds _) ran
  obtain ⟨state, worker, received⟩ := Daemon.exists_of_hasReceived red
  have sent : lighting.Sent 1 worker 1 0x24 [⟨128, 0, 0⟩] := ⟨state, received⟩
  exact ⟨lighting, worker, shines, sent, colors_are_meant sinAtStart_sine shines sent⟩

end Lighting

end TtRiingd.Core
