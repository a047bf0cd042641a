import TtRiingd.Config.Mappings
import TtRiingd.Core.Event

namespace TtRiingd.Providers

structure FanColorServiceCache where
  runners : EffectStore
  newRunners : EffectStore

def buildEffects (config : Config) : EffectStore :=
  EffectStore.buildEffectStore config.effects config.effectMappings

def FanColorServiceCache.new (config : Config) : FanColorServiceCache := ⟨buildEffects config, ⟨∅⟩⟩

/-- Colours are the triples of the source; a `HashMap` is a table whose order nothing reads. -/
abbrev ControllerColorBuffer := List (Nat × List Rgb)

abbrev Buffer := AList fun _ : String => ControllerColorBuffer

namespace FanColor

def rebuildEffects (config : Config) (cache : FanColorServiceCache) : FanColorServiceCache :=
  { cache with newRunners := buildEffects config }

def handleEvent (config : Config) (event : RequestPayload) (cache : FanColorServiceCache) :
    Except Error Response × FanColorServiceCache :=
  match event with
  | .prepareConfigUpdate _ => (.ok .success, rebuildEffects config cache)
  | .other debug => (.error (anyhow s!"Unhandled request type: {debug}"), cache)

def handleNotify (event : Event) (cache : FanColorServiceCache) : FanColorServiceCache :=
  match event with
  | .commitConfigUpdate _ => { cache with runners := cache.newRunners }
  | .rollbackConfigUpdate _ => cache
  | _ => cache

/-! ## Painting the write buffer -/

def black : Rgb := ⟨0, 0, 0⟩

/-- `find` stops at the first entry of the channel. -/
def setColor (channel : Nat) (rgb : Rgb) : ControllerColorBuffer → ControllerColorBuffer
  | [] => []
  | (other, leds) :: rest =>
      if other = channel then (other, leds.map fun _ => rgb) :: rest
      else (other, leds) :: setColor channel rgb rest

/-- One target of a runner in the buffer of its controller. `led` is the answer of `led_count`, asked for
a channel without an entry; a target of an unknown controller is skipped. -/
def colorTarget (led : Option Nat) (channel : Nat) (rgb : Rgb) (buf : ControllerColorBuffer) :
    ControllerColorBuffer :=
  if buf.any fun entry => entry.1 = channel then setColor channel rgb buf
  else
    match led with
    | some led => setColor channel rgb (buf ++ [(channel, List.replicate led black)])
    | none => buf

-- The entry of the controller is made before `led_count` is asked, and stays.
def paintTarget (led : Option Nat) (rgb : Rgb) (buffer : Buffer) (fan : FanRef) : Buffer :=
  buffer.insert fan.controllerId
    (colorTarget led fan.channel rgb ((buffer.lookup fan.controllerId).getD []))

/-- The loop of one tick. `runners` lists the store in the order in which it is iterated, and `rgbOf`
is what the stream of each runner yields. -/
def calculateFanColors (ledCount : String → Option Nat) (rgbOf : String → Option Rgb)
    (runners : List (String × EffectInstance)) (writeBuffer : Buffer) : Buffer :=
  runners.foldl (fun buffer runner =>
    match rgbOf runner.1 with
    | some rgb => runner.2.targets.foldl (fun buffer fan => paintTarget (ledCount fan.controllerId) rgb buffer fan)
        buffer
    | none => buffer) writeBuffer

end FanColor

end TtRiingd.Providers
