import TtRiingd.Config.EffectMappings
import TtRiingd.Providers.FanColor

/-!
# The order of the runners

`calculate_fan_colors` walks over a hash map and paints in place, so of two effects with a common
target the one that the map happens to list last gives the colour.
-/

namespace TtRiingd.Providers.FanColor

/-! ## What one tick paints -/

/-- The LED lists a controller's buffer holds for a channel. -/
def ledsIn (channel : Nat) (buf : ControllerColorBuffer) : List (List Rgb) :=
  (buf.filter fun entry => entry.1 = channel).map Prod.snd

def ledsOf (buffer : Buffer) (fan : FanRef) : List (List Rgb) :=
  ledsIn fan.channel ((buffer.lookup fan.controllerId).getD [])

def painted (led : Option Nat) (rgb : Rgb) : List (List Rgb) → List (List Rgb)
  | leds :: rest => (leds.map fun _ => rgb) :: rest
  | [] =>
      match led with
      | some led => [List.replicate led rgb]
      | none => []

def paintsOf (rgbOf : String → Option Rgb) (runner : String × EffectInstance) : List (FanRef × Rgb) :=
  match rgbOf runner.1 with
  | some rgb => runner.2.targets.map fun fan => (fan, rgb)
  | none => []

def paint (ledCount : String → Option Nat) (buffer : Buffer) (write : FanRef × Rgb) : Buffer :=
  paintTarget (ledCount write.1.controllerId) write.2 buffer write.1

theorem calculateFanColors_eq (ledCount : String → Option Nat) (rgbOf : String → Option Rgb)
    (runners : List (String × EffectInstance)) (buffer : Buffer) :
    calculateFanColors ledCount rgbOf runners buffer =
      (runners.flatMap (paintsOf rgbOf)).foldl (paint ledCount) buffer := by
  induction runners generalizing buffer with
  | nil => rfl
  | cons runner rest ih =>
      rw [List.flatMap_cons, List.foldl_append, ← ih]
      unfold calculateFanColors paintsOf
      rw [List.foldl_cons]
      cases rgbOf runner.1 with
      | none => rfl
      | some rgb =>
          rw [List.foldl_map]
          rfl

theorem ledsIn_cons (channel : Nat) (entry : Nat × List Rgb) (rest : ControllerColorBuffer) :
    ledsIn channel (entry :: rest) =
      if entry.1 = channel then entry.2 :: ledsIn channel rest else ledsIn channel rest := by
  unfold ledsIn
  by_cases same : entry.1 = channel
  · rw [if_pos same, List.filter_cons_of_pos (by simpa using same), List.map_cons]
  · rw [if_neg same, List.filter_cons_of_neg (by simpa using same)]

theorem ledsIn_append (channel : Nat) (buf more : ControllerColorBuffer) :
    ledsIn channel (buf ++ more) = ledsIn channel buf ++ ledsIn channel more := by
  unfold ledsIn
  rw [List.filter_append, List.map_append]

theorem any_iff_ledsIn (channel : Nat) (buf : ControllerColorBuffer) :
    (buf.any fun entry => entry.1 = channel) = true ↔ ledsIn channel buf ≠ [] := by
  unfold ledsIn
  rw [Ne, List.map_eq_nil_iff, List.filter_eq_nil_iff, List.any_eq_true]
  simp

theorem ledsIn_setColor (channel other : Nat) (rgb : Rgb) (buf : ControllerColorBuffer) :
    ledsIn other (setColor channel rgb buf) =
      if other = channel then painted none rgb (ledsIn channel buf) else ledsIn other buf := by
  induction buf with
  | nil =>
      split <;> rfl
  | cons entry rest ih =>
      unfold setColor
      by_cases here : entry.1 = channel
      · rw [if_pos here, ledsIn_cons, ledsIn_cons, ledsIn_cons, if_pos here]
        by_cases same : other = channel
        · rw [if_pos same, if_pos (by rw [here, same]), same]
          rfl
        · rw [if_neg same, if_neg (by rw [here]; exact Ne.symm same), if_neg (by rw [here]; exact Ne.symm same)]
      · rw [if_neg here, ledsIn_cons, ledsIn_cons, ledsIn_cons, if_neg here, ih]
        by_cases same : other = channel
        · rw [if_pos same, if_pos same, if_neg (by rw [same]; exact here)]
        · rw [if_neg same, if_neg same]

theorem painted_of_ne_nil (led : Option Nat) (rgb : Rgb) {leds : List (List Rgb)} (held : leds ≠ []) :
    painted led rgb leds = painted none rgb leds := by
  cases leds with
  | nil => contradiction
  | cons first rest => rfl

theorem ledsIn_colorTarget (led : Option Nat) (channel other : Nat) (rgb : Rgb) (buf : ControllerColorBuffer) :
    ledsIn other (colorTarget led channel rgb buf) =
      if other = channel then painted led rgb (ledsIn channel buf) else ledsIn other buf := by
  unfold colorTarget
  by_cases held : (buf.any fun entry => entry.1 = channel) = true
  · rw [if_pos held, ledsIn_setColor, painted_of_ne_nil led rgb ((any_iff_ledsIn channel buf).mp held)]
  · have missing : ledsIn channel buf = [] := by
      by_contra present
      exact held ((any_iff_ledsIn channel buf).mpr present)
    rw [if_neg held, missing]
    cases led with
    | none =>
        by_cases same : other = channel
        · rw [if_pos same, same, missing]
          rfl
        · rw [if_neg same]
    | some led =>
        simp only [ledsIn_setColor, ledsIn_append, ledsIn_cons, missing]
        by_cases same : other = channel
        · rw [if_pos same, if_pos same, if_true]
          simp [painted, ledsIn]
        · rw [if_neg same, if_neg same, if_neg (Ne.symm same)]
          exact List.append_nil _

theorem ledsOf_paintTarget (led : Option Nat) (rgb : Rgb) (buffer : Buffer) (fan query : FanRef) :
    ledsOf (paintTarget led rgb buffer fan) query =
      if query = fan then painted led rgb (ledsOf buffer fan) else ledsOf buffer query := by
  unfold paintTarget ledsOf
  rw [AList.lookup_insert_eq]
  by_cases controller : query.controllerId = fan.controllerId
  · rw [if_pos controller, Option.getD_some, ledsIn_colorTarget]
    by_cases channel : query.channel = fan.channel
    · have same : query = fan := by
        cases query
        cases fan
        rw [FanRef.mk.injEq]
        exact ⟨controller, channel⟩
      rw [if_pos channel, if_pos same]
    · have other : query ≠ fan := fun same => channel (by rw [same])
      rw [if_neg channel, if_neg other, controller]
  · have other : query ≠ fan := fun same => controller (by rw [same])
    rw [if_neg controller, if_neg other]

/-! ## The last colour stays -/

theorem painted_painted (led : Option Nat) (rgb earlier : Rgb) (leds : List (List Rgb)) :
    painted led rgb (painted led earlier leds) = painted led rgb leds := by
  cases leds with
  | cons first rest => simp [painted]
  | nil =>
      cases led with
      | none => rfl
      | some led => simp [painted]

theorem ledsOf_paints (ledCount : String → Option Nat) (writes : List (FanRef × Rgb)) (buffer : Buffer)
    (fan : FanRef) :
    ledsOf (writes.foldl (paint ledCount) buffer) fan =
      match writes.lastValue fan with
      | some rgb => painted (ledCount fan.controllerId) rgb (ledsOf buffer fan)
      | none => ledsOf buffer fan := by
  induction writes generalizing buffer with
  | nil => rfl
  | cons write rest ih =>
      rw [List.foldl_cons, ih, List.lastValue, paint, ledsOf_paintTarget]
      by_cases same : fan = write.1
      · rw [if_pos same, if_pos same.symm, ← same]
        cases rest.lastValue fan with
        | none => rfl
        | some rgb => exact painted_painted _ _ _ _
      · rw [if_neg same, if_neg (Ne.symm same), Option.or_none]

/-- Whether painting the channel changes what a fan shows: there is at least one LED to paint. -/
def CanShow (led : Option Nat) : List (List Rgb) → Prop
  | leds :: _ => leds ≠ []
  | [] => ∃ count, led = some count ∧ count ≠ 0

theorem painted_eq_iff (led : Option Nat) (rgb other : Rgb) (leds : List (List Rgb)) :
    painted led rgb leds = painted led other leds ↔ (CanShow led leds → rgb = other) := by
  cases leds with
  | cons first rest =>
      simp only [painted, CanShow, List.cons.injEq, and_true]
      cases first with
      | nil => simp
      | cons color more =>
          simp only [List.map_cons, List.cons.injEq]
          exact ⟨fun same _ => same.1, fun same => by simp [same (by simp)]⟩
  | nil =>
      cases led with
      | none => simp [painted, CanShow]
      | some count =>
          cases count with
          | zero => simp [painted, CanShow]
          | succ count =>
              simp only [painted, CanShow, List.replicate_succ, List.cons.injEq, and_true]
              exact ⟨fun same _ => same.1, fun same => by simp [same ⟨_, rfl, by simp⟩]⟩

/-! ## All orders of the store -/

def runnersOf (store : EffectStore) : List (String × EffectInstance) :=
  store.runners.entries.map fun entry => (entry.1, entry.2)

/-- The runner gives the fan this colour in this tick. -/
def Paints (rgbOf : String → Option Rgb) (runner : String × EffectInstance) (fan : FanRef) (rgb : Rgb) : Prop :=
  rgbOf runner.1 = some rgb ∧ fan ∈ runner.2.targets

theorem mem_paintsOf (rgbOf : String → Option Rgb) (runner : String × EffectInstance) (fan : FanRef) (rgb : Rgb) :
    (fan, rgb) ∈ paintsOf rgbOf runner ↔ Paints rgbOf runner fan rgb := by
  unfold paintsOf Paints
  cases rgbOf runner.1 with
  | none => simp
  | some yielded => simp [and_comm, eq_comm]

theorem lastValue_paintsOf {rgbOf : String → Option Rgb} {runner : String × EffectInstance} {fan : FanRef}
    {rgb : Rgb} (paints : Paints rgbOf runner fan rgb) : (paintsOf rgbOf runner).lastValue fan = some rgb := by
  unfold paintsOf
  rw [paints.1]
  exact List.lastValue_const paints.2 rgb

theorem exists_order_ending {runners : List (String × EffectInstance)} {runner : String × EffectInstance}
    (member : runner ∈ runners) {rgbOf : String → Option Rgb} {fan : FanRef} {rgb : Rgb}
    (paints : Paints rgbOf runner fan rgb) :
    ∃ order : List (String × EffectInstance), order.Perm runners ∧
      (order.flatMap (paintsOf rgbOf)).lastValue fan = some rgb := by
  refine ⟨runners.erase runner ++ [runner], ?_, ?_⟩
  · exact (List.perm_append_singleton runner _).trans (List.perm_cons_erase member).symm
  · rw [List.flatMap_append, List.lastValue_append, List.flatMap_singleton, lastValue_paintsOf paints,
      Option.some_or]

theorem lastValue_order {runners order : List (String × EffectInstance)} (perm : order.Perm runners)
    {rgbOf : String → Option Rgb} {fan : FanRef} {rgb : Rgb}
    (last : (order.flatMap (paintsOf rgbOf)).lastValue fan = some rgb) :
    ∃ runner ∈ runners, Paints rgbOf runner fan rgb := by
  obtain ⟨runner, member, written⟩ := List.mem_flatMap.mp (List.lastValue_mem last)
  exact ⟨runner, perm.mem_iff.mp member, (mem_paintsOf rgbOf runner fan rgb).mp written⟩

theorem lastValue_order_none {order other : List (String × EffectInstance)} (perm : order.Perm other)
    {rgbOf : String → Option Rgb} {fan : FanRef}
    (unpainted : (order.flatMap (paintsOf rgbOf)).lastValue fan = none) :
    (other.flatMap (paintsOf rgbOf)).lastValue fan = none := by
  rw [List.lastValue_eq_none] at unpainted ⊢
  rw [((perm.flatMap_right (paintsOf rgbOf)).map Prod.fst).mem_iff] at unpainted
  exact unpainted

/-- Every order of the runners leaves the same colours. -/
def OrderIgnored (ledCount : String → Option Nat) (rgbOf : String → Option Rgb) (store : EffectStore)
    (buffer : Buffer) : Prop :=
  ∀ order other : List (String × EffectInstance), order.Perm (runnersOf store) → other.Perm (runnersOf store) →
    ∀ fan, ledsOf (calculateFanColors ledCount rgbOf order buffer) fan =
      ledsOf (calculateFanColors ledCount rgbOf other buffer) fan

/-- Runners with a common target that can show a colour give it the same colour. -/
def OneColorEach (ledCount : String → Option Nat) (rgbOf : String → Option Rgb) (store : EffectStore)
    (buffer : Buffer) : Prop :=
  ∀ fan, CanShow (ledCount fan.controllerId) (ledsOf buffer fan) →
    ∀ runner ∈ runnersOf store, ∀ other ∈ runnersOf store, ∀ rgb rgb',
      Paints rgbOf runner fan rgb → Paints rgbOf other fan rgb' → rgb = rgb'

theorem colors_orderIgnored_iff (ledCount : String → Option Nat) (rgbOf : String → Option Rgb)
    (store : EffectStore) (buffer : Buffer) :
    OrderIgnored ledCount rgbOf store buffer ↔ OneColorEach ledCount rgbOf store buffer := by
  constructor
  · intro ignored fan shows runner member other member' rgb rgb' paints paints'
    obtain ⟨order, perm, last⟩ := exists_order_ending member paints
    obtain ⟨order', perm', last'⟩ := exists_order_ending member' paints'
    have same := ignored order order' perm perm' fan
    simp only [calculateFanColors_eq, ledsOf_paints, last, last'] at same
    exact (painted_eq_iff _ _ _ _).mp same shows
  · intro oneColor order order' perm perm' fan
    simp only [calculateFanColors_eq, ledsOf_paints]
    cases last : (order.flatMap (paintsOf rgbOf)).lastValue fan with
    | none => rw [lastValue_order_none (perm.trans perm'.symm) last]
    | some rgb =>
        cases last' : (order'.flatMap (paintsOf rgbOf)).lastValue fan with
        | none =>
            rw [lastValue_order_none (perm'.trans perm.symm) last'] at last
            contradiction
        | some rgb' =>
            obtain ⟨runner, member, paints⟩ := lastValue_order perm last
            obtain ⟨other, member', paints'⟩ := lastValue_order perm' last'
            apply (painted_eq_iff _ _ _ _).mpr
            intro shows
            exact oneColor fan shows runner member other member' rgb rgb' paints paints'

def redAndBlue : EffectStore :=
  EffectStore.buildEffectStore [.constantColor "red" ⟨255, 0, 0⟩, .constantColor "blue" ⟨0, 0, 255⟩]
    [⟨"red", [⟨"0", 1⟩]⟩, ⟨"blue", [⟨"0", 1⟩]⟩]

def yielded (effect : String) : Option Rgb :=
  if effect = "red" then some ⟨255, 0, 0⟩ else some ⟨0, 0, 255⟩

theorem two_effects_on_one_fan :
    ledsOf (calculateFanColors (fun _ => some 1) yielded (runnersOf redAndBlue) ∅) ⟨"0", 1⟩ =
      [[⟨255, 0, 0⟩]] ∧
    ledsOf (calculateFanColors (fun _ => some 1) yielded (runnersOf redAndBlue).reverse ∅) ⟨"0", 1⟩ =
      [[⟨0, 0, 255⟩]] ∧
    ¬ OrderIgnored (fun _ => some 1) yielded redAndBlue ∅ := by
  have first : ledsOf (calculateFanColors (fun _ => some 1) yielded (runnersOf redAndBlue) ∅) ⟨"0", 1⟩ =
      [[⟨255, 0, 0⟩]] := by decide
  have second :
      ledsOf (calculateFanColors (fun _ => some 1) yielded (runnersOf redAndBlue).reverse ∅) ⟨"0", 1⟩ =
        [[⟨0, 0, 255⟩]] := by decide
  refine ⟨first, second, fun ignored => ?_⟩
  have same := ignored _ _ (List.Perm.refl _) (List.reverse_perm _) ⟨"0", 1⟩
  rw [first, second] at same
  exact absurd same (by decide)

end TtRiingd.Providers.FanColor
