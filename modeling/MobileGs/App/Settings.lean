import Mathlib.Data.List.GetD
import Mathlib.Logic.Function.Basic

/-!
# The settings of the app

`SettingsRepository` keeps the 22 fields of `Settings` in a DataStore, each under its own key. The
enumerations are kept as an ordinal, the bandwidth in MHz. What is missing, and an ordinal or a
bandwidth that does not exist, is read as the default of the field.

A store is a function of the keys that says which value a key has. `Key.name` is the name under
which the DataStore knows a key, and no two keys share one (`name_injective`).
-/

set_option autoImplicit false

namespace MobileGs

namespace App

/-! ## Enumerations -/

/-- A Kotlin `enum class`, with its `entries`. -/
class EnumClass (α : Type) where
  entries : List α
  mem_entries : ∀ entry, entry ∈ entries
  length_le : entries.length ≤ 2147483648

section Enumerations

variable {α : Type} [DecidableEq α] [EnumClass α]

/-- `ordinal`. -/
def ordinal (entry : α) : Int32 := Int32.ofNat ((EnumClass.entries (α := α)).idxOf entry)

/-- `entries.getOrElse(index) { default }`. -/
def getOrElse (index : Int32) (default : α) : α :=
  if index < 0 then default else (EnumClass.entries (α := α)).getD index.toInt.toNat default

/-- An entry is read back from its ordinal. -/
theorem getOrElse_ordinal (entry default : α) : getOrElse (ordinal entry) default = entry := by
  have within := List.idxOf_lt_length_of_mem (EnumClass.mem_entries entry)
  have bound := EnumClass.length_le (α := α)
  have index : (ordinal entry).toInt = (EnumClass.entries (α := α)).idxOf entry :=
    Int32.toInt_ofNat_of_lt (by omega)
  have nonneg : ¬ ordinal entry < 0 := by
    rw [Int32.lt_iff_toInt_lt, index]
    exact Int.not_lt.mpr (Int.natCast_nonneg _)
  rw [getOrElse, if_neg nonneg, index, Int.toNat_natCast, List.getD_eq_getElem _ _ within,
    List.getElem_idxOf]

end Enumerations

inductive SourceKind where
  | devourer
  | udp
  deriving DecidableEq, Repr

inductive Bandwidth where
  | bw5
  | bw10
  | bw20
  | bw40
  | bw80
  deriving DecidableEq, Repr

inductive VideoCodec where
  | auto
  | h264
  | h265
  deriving DecidableEq, Repr

inductive MavlinkEndpointKind where
  | udpOut
  | udpServer
  | tcpServer
  deriving DecidableEq, Repr

instance : EnumClass SourceKind where
  entries := [.devourer, .udp]
  mem_entries entry := by cases entry <;> simp
  length_le := by decide

instance : EnumClass VideoCodec where
  entries := [.auto, .h264, .h265]
  mem_entries entry := by cases entry <;> simp
  length_le := by decide

instance : EnumClass MavlinkEndpointKind where
  entries := [.udpOut, .udpServer, .tcpServer]
  mem_entries entry := by cases entry <;> simp
  length_le := by decide

def Bandwidth.entries : List Bandwidth := [.bw5, .bw10, .bw20, .bw40, .bw80]

def Bandwidth.mhz : Bandwidth → Int32
  | .bw5 => 5
  | .bw10 => 10
  | .bw20 => 20
  | .bw40 => 40
  | .bw80 => 80

/-- The bandwidth kept as a number of MHz, or the default. -/
def Bandwidth.ofMhz (stored : Option Int32) : Bandwidth :=
  (Bandwidth.entries.find? fun entry => some entry.mhz == stored).getD .bw20

theorem Bandwidth.ofMhz_mhz (bandwidth : Bandwidth) : ofMhz (some bandwidth.mhz) = bandwidth := by
  cases bandwidth <;> decide

/-! ## Settings -/

structure Settings where
  source : SourceKind := .devourer
  channel : Int32 := 161
  bandwidth : Bandwidth := .bw20
  linkId : Int32 := 7669206
  codec : VideoCodec := .auto
  udpVideoPort : Int32 := 5600
  mavlinkEnabled : Bool := true
  mavlinkKind : MavlinkEndpointKind := .udpOut
  mavlinkHost : String := "127.0.0.1"
  mavlinkPort : Int32 := 14550
  mavlinkUplink : Bool := true
  secondEndpointEnabled : Bool := false
  secondEndpointKind : MavlinkEndpointKind := .tcpServer
  secondEndpointPort : Int32 := 5760
  alinkEnabled : Bool := false
  alinkHost : String := "10.5.0.10"
  alinkPort : Int32 := 9999
  alinkAllowIdr : Bool := true
  alinkAllowPenalty : Bool := false
  alinkAllowFecIncrease : Bool := false
  recordVideo : Bool := false
  osdEnabled : Bool := true
  deriving DecidableEq, Repr

/-! ## The store -/

/-- The keys of the companion object. -/
inductive Key where
  | source
  | channel
  | bandwidth
  | linkId
  | codec
  | udpPort
  | mavlinkEnabled
  | mavlinkKind
  | mavlinkHost
  | mavlinkPort
  | mavlinkUplink
  | secondEnabled
  | secondKind
  | secondPort
  | alinkEnabled
  | alinkHost
  | alinkPort
  | alinkIdr
  | alinkPenalty
  | alinkFec
  | record
  | osd
  deriving DecidableEq, Repr

/-- The name of a key in the store. -/
def Key.name : Key → String
  | .source => "source"
  | .channel => "channel"
  | .bandwidth => "bandwidth"
  | .linkId => "link_id"
  | .codec => "codec"
  | .udpPort => "udp_port"
  | .mavlinkEnabled => "mavlink_enabled"
  | .mavlinkKind => "mavlink_kind"
  | .mavlinkHost => "mavlink_host"
  | .mavlinkPort => "mavlink_port"
  | .mavlinkUplink => "mavlink_uplink"
  | .secondEnabled => "second_enabled"
  | .secondKind => "second_kind"
  | .secondPort => "second_port"
  | .alinkEnabled => "alink_enabled"
  | .alinkHost => "alink_host"
  | .alinkPort => "alink_port"
  | .alinkIdr => "alink_idr"
  | .alinkPenalty => "alink_penalty"
  | .alinkFec => "alink_fec"
  | .record => "record"
  | .osd => "osd"

/-- The type of the values of a key: it is an `intPreferencesKey`, a `booleanPreferencesKey` or a
`stringPreferencesKey`. -/
abbrev Key.Value : Key → Type
  | .source => Int32
  | .channel => Int32
  | .bandwidth => Int32
  | .linkId => Int32
  | .codec => Int32
  | .udpPort => Int32
  | .mavlinkEnabled => Bool
  | .mavlinkKind => Int32
  | .mavlinkHost => String
  | .mavlinkPort => Int32
  | .mavlinkUplink => Bool
  | .secondEnabled => Bool
  | .secondKind => Int32
  | .secondPort => Int32
  | .alinkEnabled => Bool
  | .alinkHost => String
  | .alinkPort => Int32
  | .alinkIdr => Bool
  | .alinkPenalty => Bool
  | .alinkFec => Bool
  | .record => Bool
  | .osd => Bool

/-- The store is read by name, so names must not coincide. -/
theorem Key.name_injective : Function.Injective Key.name := by
  intro key key' same
  cases key <;> cases key' <;> first | rfl | simp [Key.name] at same

/-- `Preferences`: the value of each key, if it has one. -/
def Preferences := (key : Key) → Option key.Value

/-- A store without any value. -/
def Preferences.empty : Preferences := fun _ => none

/-- `prefs[key] = value`. -/
def Preferences.set (prefs : Preferences) (key : Key) (value : key.Value) : Preferences :=
  Function.update prefs key (some value)

/-- What `settings` makes of the store. -/
def settings (prefs : Preferences) : Settings where
  source := getOrElse ((prefs .source).getD 0) .devourer
  channel := (prefs .channel).getD 161
  bandwidth := .ofMhz (prefs .bandwidth)
  linkId := (prefs .linkId).getD 7669206
  codec := getOrElse ((prefs .codec).getD 0) .auto
  udpVideoPort := (prefs .udpPort).getD 5600
  mavlinkEnabled := (prefs .mavlinkEnabled).getD true
  mavlinkKind := getOrElse ((prefs .mavlinkKind).getD 0) .udpOut
  mavlinkHost := (prefs .mavlinkHost).getD "127.0.0.1"
  mavlinkPort := (prefs .mavlinkPort).getD 14550
  mavlinkUplink := (prefs .mavlinkUplink).getD true
  secondEndpointEnabled := (prefs .secondEnabled).getD false
  secondEndpointKind := getOrElse ((prefs .secondKind).getD 2) .tcpServer
  secondEndpointPort := (prefs .secondPort).getD 5760
  alinkEnabled := (prefs .alinkEnabled).getD false
  alinkHost := (prefs .alinkHost).getD "10.5.0.10"
  alinkPort := (prefs .alinkPort).getD 9999
  alinkAllowIdr := (prefs .alinkIdr).getD true
  alinkAllowPenalty := (prefs .alinkPenalty).getD false
  alinkAllowFecIncrease := (prefs .alinkFec).getD false
  recordVideo := (prefs .record).getD false
  osdEnabled := (prefs .osd).getD true

/-- The block `update` hands to `edit`. -/
def edit (next : Settings) (prefs : Preferences) : Preferences :=
  prefs
    |>.set .source (ordinal next.source)
    |>.set .channel next.channel
    |>.set .bandwidth next.bandwidth.mhz
    |>.set .linkId next.linkId
    |>.set .codec (ordinal next.codec)
    |>.set .udpPort next.udpVideoPort
    |>.set .mavlinkEnabled next.mavlinkEnabled
    |>.set .mavlinkKind (ordinal next.mavlinkKind)
    |>.set .mavlinkHost next.mavlinkHost
    |>.set .mavlinkPort next.mavlinkPort
    |>.set .mavlinkUplink next.mavlinkUplink
    |>.set .secondEnabled next.secondEndpointEnabled
    |>.set .secondKind (ordinal next.secondEndpointKind)
    |>.set .secondPort next.secondEndpointPort
    |>.set .alinkEnabled next.alinkEnabled
    |>.set .alinkHost next.alinkHost
    |>.set .alinkPort next.alinkPort
    |>.set .alinkIdr next.alinkAllowIdr
    |>.set .alinkPenalty next.alinkAllowPenalty
    |>.set .alinkFec next.alinkAllowFecIncrease
    |>.set .record next.recordVideo
    |>.set .osd next.osdEnabled

/-- Every field is read from the key it is stored under. -/
theorem settings_edit_eq (next : Settings) (prefs : Preferences) :
    settings (edit next prefs) =
      { next with
        source := getOrElse (ordinal next.source) .devourer
        bandwidth := .ofMhz (some next.bandwidth.mhz)
        codec := getOrElse (ordinal next.codec) .auto
        mavlinkKind := getOrElse (ordinal next.mavlinkKind) .udpOut
        secondEndpointKind := getOrElse (ordinal next.secondEndpointKind) .tcpServer } := rfl

/-- **Settings survive the store**, whatever it had before. -/
theorem settings_edit (next : Settings) (prefs : Preferences) :
    settings (edit next prefs) = next := by
  rw [settings_edit_eq]
  simp only [getOrElse_ordinal, Bandwidth.ofMhz_mhz]

/-- An empty store holds the default settings. -/
theorem settings_empty : settings .empty = {} := rfl

end App

end MobileGs
