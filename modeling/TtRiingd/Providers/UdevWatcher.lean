import TtRiingd.Core.Event
import TtRiingd.Drivers.Registry
import TtRiingd.Library.Radix

/-!
# The udev watcher

A thread of its own reads the events of hidraw devices, looks for the USB ids among the device and its
parents, and hands over the events of supported hardware. The service turns those that add or remove a
device into events of the bus.
-/

namespace TtRiingd.Providers
open Drivers

/-- What udev has under a name: text, or bytes that are not UTF-8, with their lossy reading. -/
inductive OsString where
  | text (value : String)
  | bytes (lossy : String)

def OsString.toStr : OsString → Option String
  | .text value => some value
  | .bytes _ => none

def OsString.toStringLossy : OsString → String
  | .text value => value
  | .bytes lossy => lossy

structure UdevNode where
  attributeValue : String → Option OsString
  propertyValue : String → Option OsString

/-- A device with its parents, the nearest first. -/
structure UdevDevice where
  node : UdevNode
  parents : List UdevNode

inductive EventType where
  | add
  | remove
  | change
  | bind
  | unbind
  | unknown
  deriving DecidableEq

structure UdevEvent where
  eventType : EventType
  device : UdevDevice

structure UdevEventInfo where
  eventType : EventType
  vendorId : UInt16
  productId : UInt16
  serial : Option String
  deriving DecidableEq

namespace UdevWatcher

/-! ## The ids of a device -/

/-- `trim_start_matches` for a pattern of two characters. -/
def trimStartMatches (first second : Char) : List Char → List Char
  | c :: d :: rest => if c = first ∧ d = second then trimStartMatches first second rest else c :: d :: rest
  | short => short

def toDigit16 (c : Char) : Option Nat :=
  if '0' ≤ c ∧ c ≤ '9' then some (c.toNat - '0'.toNat)
  else if 'a' ≤ c ∧ c ≤ 'f' then some (c.toNat - 'a'.toNat + 10)
  else if 'A' ≤ c ∧ c ≤ 'F' then some (c.toNat - 'A'.toNat + 10)
  else none

/-- `u16::from_str_radix(src, 16)`, without the kind of its error. -/
def fromStrRadix16 (src : List Char) : Option UInt16 :=
  let digits := match src with
    | '+' :: rest => rest
    | other => other
  if digits = [] then none else (Radix.read toDigit16 16 (2 ^ 16) digits 0).map UInt16.ofNat

def parseId (s : String) : Option UInt16 :=
  fromStrRadix16 (trimStartMatches '0' 'X' (trimStartMatches '0' 'x' s.toList))

def UdevNode.vid (node : UdevNode) : Option OsString :=
  (node.attributeValue "idVendor").or (node.propertyValue "ID_VENDOR_ID")

def UdevNode.pid (node : UdevNode) : Option OsString :=
  (node.attributeValue "idProduct").or (node.propertyValue "ID_MODEL_ID")

def UdevNode.serialNumber (node : UdevNode) : Option OsString :=
  (node.propertyValue "ID_SERIAL_SHORT").or (node.attributeValue "serial")

def usbIdsFrom : List UdevNode → Option (UInt16 × UInt16 × Option String)
  | [] => none
  | node :: parents =>
      match UdevNode.vid node, UdevNode.pid node with
      | some v, some p => do
          let v ← v.toStr
          let vid := parseId v
          let p ← p.toStr
          let pid := parseId p
          return (← vid, ← pid, (UdevNode.serialNumber node).map OsString.toStringLossy)
      | _, _ => usbIdsFrom parents

def usbIds (device : UdevDevice) : Option (UInt16 × UInt16 × Option String) :=
  usbIdsFrom (device.node :: device.parents)

/-! ## From udev to the bus -/

/-- What the monitor hands over for an event, if the hardware is supported. -/
def eventInfo (event : UdevEvent) : Option UdevEventInfo :=
  let (vid, pid, serial) := (usbIds event.device).getD (0, 0, none)
  if Registry.isSupportedHardware vid pid then some ⟨event.eventType, vid, pid, serial⟩ else none

/-- What the service publishes for it. -/
def busEvent (info : UdevEventInfo) : Option Event :=
  match info.eventType with
  | .add => some (.deviceConnected info.vendorId info.productId info.serial)
  | .remove => some (.deviceDisconnected info.vendorId info.productId info.serial)
  | .change | .bind | .unbind | .unknown => none

/-! ## Which texts are ids -/

theorem trimStartMatches_eq (first second : Char) (chars : List Char) :
    (∃ count, chars = (List.replicate count [first, second]).flatten ++ trimStartMatches first second chars) ∧
      ¬ [first, second] <+: trimStartMatches first second chars := by
  induction chars using trimStartMatches.induct first second with
  | case1 c d rest matched ih =>
      obtain ⟨rfl, rfl⟩ := matched
      obtain ⟨⟨count, split⟩, trimmed⟩ := ih
      have same : trimStartMatches c d (c :: d :: rest) = trimStartMatches c d rest := by
        simp [trimStartMatches]
      rw [same]
      refine ⟨⟨count + 1, ?_⟩, trimmed⟩
      rw [List.replicate_succ, List.flatten_cons, List.append_assoc, ← split]
      rfl
  | case2 c d rest differs =>
      have same : trimStartMatches first second (c :: d :: rest) = c :: d :: rest := by
        simp [trimStartMatches, differs]
      rw [same]
      refine ⟨⟨0, rfl⟩, ?_⟩
      intro ⟨others, begins⟩
      simp only [List.cons_append, List.cons.injEq] at begins
      exact differs ⟨begins.1.symm, begins.2.1.symm⟩
  | case3 short brief =>
      have same : trimStartMatches first second short = short := by
        unfold trimStartMatches
        split
        · exact absurd rfl (brief _ _ _)
        · rfl
      rw [same]
      refine ⟨⟨0, rfl⟩, ?_⟩
      intro ⟨others, begins⟩
      exact brief first second others begins.symm

theorem trimStartMatches_flatten {first second : Char} (count : Nat) {rest : List Char}
    (trimmed : ¬ [first, second] <+: rest) :
    trimStartMatches first second ((List.replicate count [first, second]).flatten ++ rest) = rest := by
  induction count with
  | zero =>
      cases rest with
      | nil => rfl
      | cons c others =>
          cases others with
          | nil => rfl
          | cons d others =>
              have differs : ¬ (c = first ∧ d = second) := by
                rintro ⟨rfl, rfl⟩
                exact trimmed ⟨others, rfl⟩
              simp [trimStartMatches, differs]
  | succ count ih =>
      rw [List.replicate_succ, List.flatten_cons, List.append_assoc]
      simpa [trimStartMatches] using ih

/-- The text of an id: any number of `0x`, any number of `0X`, perhaps a plus sign, and hexadecimal digits. -/
def Spells (s : String) (n : UInt16) : Prop :=
  ∃ lower upper sign digits values,
    s.toList = (List.replicate lower ['0', 'x']).flatten ++
      ((List.replicate upper ['0', 'X']).flatten ++ (sign ++ digits)) ∧
    (sign = [] ∨ sign = ['+']) ∧ digits ≠ [] ∧ digits.map toDigit16 = values.map some ∧
    Radix.number 16 values 0 = n.toNat

theorem fromStrRadix16_eq_some_iff (src : List Char) (n : UInt16) :
    fromStrRadix16 src = some n ↔ ∃ sign digits values, src = sign ++ digits ∧ (sign = [] ∨ sign = ['+']) ∧
      digits ≠ [] ∧ digits.map toDigit16 = values.map some ∧ Radix.number 16 values 0 = n.toNat := by
  have reads (digits : List Char) : (Radix.read toDigit16 16 (2 ^ 16) digits 0).map UInt16.ofNat = some n ↔
      ∃ values, digits.map toDigit16 = values.map some ∧ Radix.number 16 values 0 = n.toNat := by
    rw [Option.map_eq_some_iff]
    constructor
    · intro ⟨total, read, same⟩
      obtain ⟨values, all, number, below⟩ := (Radix.read_eq_some_iff (by decide) (by decide)).mp read
      exact ⟨values, all, by rw [number, ← same, UInt16.toNat_ofNat_of_lt' below]⟩
    · intro ⟨values, all, number⟩
      refine ⟨n.toNat, ?_, UInt16.ofNat_toNat⟩
      exact (Radix.read_eq_some_iff (by decide) (by decide)).mpr ⟨values, all, number, n.toNat_lt⟩
  have signless (c : Char) (values : List Nat) (rest : List Char) (sign : c = '+') :
      (c :: rest).map toDigit16 ≠ values.map some := by
    subst sign
    intro all
    cases values with
    | nil => contradiction
    | cons value others => simp [toDigit16] at all
  unfold fromStrRadix16
  split
  · rename_i rest
    simp only [Option.ite_none_left_eq_some, reads]
    constructor
    · intro ⟨some_digit, values, all, number⟩
      exact ⟨['+'], rest, values, rfl, .inr rfl, some_digit, all, number⟩
    · rintro ⟨sign, digits, values, split, rfl | rfl, some_digit, all, number⟩
      · rw [List.nil_append] at split
        exact absurd all (split ▸ signless '+' values rest rfl)
      · rw [List.cons_append, List.nil_append, List.cons.injEq] at split
        exact ⟨split.2 ▸ some_digit, values, split.2 ▸ all, number⟩
  · rename_i unsigned
    simp only [Option.ite_none_left_eq_some, reads]
    constructor
    · intro ⟨some_digit, values, all, number⟩
      exact ⟨[], src, values, rfl, .inl rfl, some_digit, all, number⟩
    · rintro ⟨sign, digits, values, rfl, rfl | rfl, some_digit, all, number⟩
      · exact ⟨some_digit, values, all, number⟩
      · exact absurd rfl (unsigned digits)

/-- A numeral does not go on like a radix mark. -/
theorem not_prefix_numeral {c : Char} (letter : toDigit16 c = none) {sign digits : List Char} {values : List Nat}
    (signs : sign = [] ∨ sign = ['+']) (all : digits.map toDigit16 = values.map some) :
    ¬ ['0', c] <+: sign ++ digits := by
  intro ⟨others, begins⟩
  rcases signs with rfl | rfl
  · rw [List.nil_append] at begins
    rw [← begins] at all
    match values, all with
    | [], all => contradiction
    | [_], all => simp at all
    | _ :: second :: _, all => simp [letter] at all
  · simp at begins

theorem parseId_eq_some_iff (s : String) (n : UInt16) : parseId s = some n ↔ Spells s n := by
  unfold parseId Spells
  rw [fromStrRadix16_eq_some_iff]
  constructor
  · intro ⟨sign, digits, values, left, numeral⟩
    obtain ⟨⟨lower, first⟩, -⟩ := trimStartMatches_eq '0' 'x' s.toList
    obtain ⟨⟨upper, second⟩, -⟩ := trimStartMatches_eq '0' 'X' (trimStartMatches '0' 'x' s.toList)
    exact ⟨lower, upper, sign, digits, values, by rw [← left, ← second, ← first], numeral⟩
  · intro ⟨lower, upper, sign, digits, values, text, signs, some_digit, all, number⟩
    refine ⟨sign, digits, values, ?_, signs, some_digit, all, number⟩
    have upper_left : ¬ ['0', 'X'] <+: sign ++ digits := not_prefix_numeral (by decide) signs all
    have lower_left : ¬ ['0', 'x'] <+: (List.replicate upper ['0', 'X']).flatten ++ (sign ++ digits) := by
      cases upper with
      | zero =>
          rw [List.replicate_zero, List.flatten_nil, List.nil_append]
          exact not_prefix_numeral (by decide) signs all
      | succ upper => simp [List.replicate_succ]
    rw [text, trimStartMatches_flatten lower lower_left, trimStartMatches_flatten upper upper_left]

theorem spells_written (n : UInt16) (zeros : Nat) {write : Char → Char}
    (readable : ∀ value < 16, toDigit16 (write (Nat.digitChar value)) = some value) :
    Spells (String.ofList (List.replicate zeros '0' ++ (Nat.toDigits 16 n.toNat).map write)) n := by
  obtain ⟨digits, written, some_digit, below, number⟩ := Radix.exists_digits (by decide : 1 < 16) n.toNat
  refine ⟨0, 0, [], List.replicate zeros '0' ++ (Nat.toDigits 16 n.toNat).map write, List.replicate zeros 0 ++ digits,
    String.toList_ofList, .inl rfl, ?_, ?_, ?_⟩
  · rw [written]
    simp [some_digit]
  · rw [written, List.map_append, List.map_append, List.map_replicate, List.map_replicate, List.map_map,
      List.map_map]
    congr 1
    apply List.map_congr_left
    intro value listed
    exact readable value (below value listed)
  · rw [Radix.number_append, Radix.number_zeros, number]

/-- The ids as the daemon itself writes them in its messages. -/
theorem parseId_hex (n : UInt16) : parseId (Registry.hex n) = some n := by
  have readable : ∀ value < 16, toDigit16 (Char.toUpper (Nat.digitChar value)) = some value := by decide
  rw [parseId_eq_some_iff]
  exact spells_written n _ readable

/-! ## Which devices are announced -/

def HasIds (node : UdevNode) : Prop := (UdevNode.vid node).isSome ∧ (UdevNode.pid node).isSome

/-- The nearest node with both ids has texts that spell them. -/
def Identifies (nodes : List UdevNode) (vid pid : UInt16) (serial : Option String) : Prop :=
  ∃ nearer node farther v p, nodes = nearer ++ node :: farther ∧ (∀ other ∈ nearer, ¬ HasIds other) ∧
    UdevNode.vid node = some (.text v) ∧ UdevNode.pid node = some (.text p) ∧ Spells v vid ∧ Spells p pid ∧
    serial = (UdevNode.serialNumber node).map OsString.toStringLossy

theorem usbIdsFrom_without {node : UdevNode} (parents : List UdevNode) (without : ¬ HasIds node) :
    usbIdsFrom (node :: parents) = usbIdsFrom parents := by
  unfold HasIds at without
  cases vid : UdevNode.vid node with
  | none => simp [usbIdsFrom, vid]
  | some v =>
      cases pid : UdevNode.pid node with
      | none => simp [usbIdsFrom, vid, pid]
      | some p => simp [vid, pid] at without

theorem toStr_eq_some {value : OsString} {text : String} (read : value.toStr = some text) :
    value = .text text := by
  cases value with
  | text value => simpa [OsString.toStr] using read
  | bytes lossy => contradiction

theorem usbIdsFrom_head {node : UdevNode} (parents : List UdevNode) {vid pid : UInt16} {serial : Option String}
    (has : HasIds node) : usbIdsFrom (node :: parents) = some (vid, pid, serial) ↔
      ∃ v p, UdevNode.vid node = some (.text v) ∧ UdevNode.pid node = some (.text p) ∧ Spells v vid ∧
        Spells p pid ∧ serial = (UdevNode.serialNumber node).map OsString.toStringLossy := by
  obtain ⟨v, vendor⟩ := Option.isSome_iff_exists.mp has.1
  obtain ⟨p, product⟩ := Option.isSome_iff_exists.mp has.2
  simp only [usbIdsFrom, vendor, product, Option.bind_eq_bind, Option.bind_eq_some_iff, Option.pure_def,
    Option.some.injEq, Prod.mk.injEq]
  constructor
  · rintro ⟨v', vText, p', pText, vid', vSpells, pid', pSpells, rfl, rfl, rfl⟩
    exact ⟨v', p', toStr_eq_some vText, toStr_eq_some pText, (parseId_eq_some_iff _ _).mp vSpells,
      (parseId_eq_some_iff _ _).mp pSpells, rfl⟩
  · rintro ⟨v', p', rfl, rfl, vSpells, pSpells, rfl⟩
    exact ⟨v', rfl, p', rfl, vid, (parseId_eq_some_iff _ _).mpr vSpells, pid, (parseId_eq_some_iff _ _).mpr pSpells,
      rfl, rfl, rfl⟩

theorem usbIdsFrom_eq_some_iff (nodes : List UdevNode) (vid pid : UInt16) (serial : Option String) :
    usbIdsFrom nodes = some (vid, pid, serial) ↔ Identifies nodes vid pid serial := by
  induction nodes with
  | nil =>
      apply iff_of_false (by simp [usbIdsFrom])
      intro ⟨nearer, node, farther, v, p, split, _⟩
      simp at split
  | cons node parents ih =>
      by_cases has : HasIds node
      · rw [usbIdsFrom_head parents has]
        constructor
        · intro ⟨v, p, found⟩
          exact ⟨[], node, parents, v, p, rfl, by simp, found⟩
        · intro ⟨nearer, other, farther, v, p, split, without, found⟩
          cases nearer with
          | nil =>
              rw [List.nil_append, List.cons.injEq] at split
              rw [split.1]
              exact ⟨v, p, found⟩
          | cons first more =>
              rw [List.cons_append, List.cons.injEq] at split
              exact absurd (split.1 ▸ has) (without first (by simp))
      · rw [usbIdsFrom_without parents has, ih]
        constructor
        · intro ⟨nearer, other, farther, v, p, split, without, found⟩
          refine ⟨node :: nearer, other, farther, v, p, by rw [split, List.cons_append], ?_, found⟩
          rw [List.forall_mem_cons]
          exact ⟨has, without⟩
        · intro ⟨nearer, other, farther, v, p, split, without, found⟩
          cases nearer with
          | nil =>
              rw [List.nil_append, List.cons.injEq] at split
              have both : HasIds other := by simp [HasIds, found.1, found.2.1]
              exact absurd (split.1 ▸ both) has
          | cons first more =>
              rw [List.cons_append, List.cons.injEq] at split
              rw [List.forall_mem_cons] at without
              exact ⟨more, other, farther, v, p, split.2, without.2, found⟩

theorem eventInfo_eq_some_iff (event : UdevEvent) (info : UdevEventInfo) :
    eventInfo event = some info ↔
      Identifies (event.device.node :: event.device.parents) info.vendorId info.productId info.serial ∧
        Registry.isSupportedHardware info.vendorId info.productId = true ∧ info.eventType = event.eventType := by
  rw [← usbIdsFrom_eq_some_iff]
  unfold eventInfo usbIds
  obtain ⟨eventType, vid, pid, serial⟩ := info
  cases ids : usbIdsFrom (event.device.node :: event.device.parents) with
  | none =>
      -- No ids count as 0:0, which no driver supports.
      have unsupported : Registry.isSupportedHardware 0 0 = false := by decide
      simp [unsupported]
  | some found =>
      obtain ⟨vid', pid', serial'⟩ := found
      simp only [Option.getD_some, Option.ite_none_right_eq_some, Option.some.injEq, UdevEventInfo.mk.injEq,
        Prod.mk.injEq]
      constructor
      · rintro ⟨supported, rfl, rfl, rfl, rfl⟩
        exact ⟨⟨rfl, rfl, rfl⟩, supported, rfl⟩
      · rintro ⟨⟨rfl, rfl, rfl⟩, supported, rfl⟩
        exact ⟨supported, rfl, rfl, rfl, rfl⟩

end UdevWatcher

end TtRiingd.Providers
