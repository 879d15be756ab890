import Mathlib.Data.List.DropRight
import Mathlib.Data.List.TakeWhile

/-!
# Addresses

`support/address.py`. The address of a channel is that of its device, the
separator and a channel number. `get_split_channel_address` unpacks it, and
`none` is the `ValueError` it raises at a second separator or at a channel that
is no number.
-/

namespace AioHomematic.Support

def addressSeparator : Char := ':'

/-! ## Python's `int(s)` -/

/-- Digits with single underscores between them. -/
def digits? (acc : Nat) : List Char → Option Nat
  | [] => none
  | [c] => if c.isDigit then some (10 * acc + (c.toNat - '0'.toNat)) else none
  | c :: '_' :: cs => if c.isDigit then digits? (10 * acc + (c.toNat - '0'.toNat)) cs else none
  | c :: cs => if c.isDigit then digits? (10 * acc + (c.toNat - '0'.toNat)) cs else none

/-- `int(s)` of a text of ASCII characters, `none` where it raises `ValueError`. -/
def int? (s : List Char) : Option Int :=
  match (s.dropWhile Char.isWhitespace).rdropWhile Char.isWhitespace with
  | '+' :: cs => (digits? 0 cs).map Int.ofNat
  | '-' :: cs => (digits? 0 cs).map fun n => -Int.ofNat n
  | cs => (digits? 0 cs).map Int.ofNat

/-! ## Device and channel -/

def getSplitChannelAddress (channelAddress : String) : Option (String × Option Int) :=
  let s := channelAddress.toList
  if addressSeparator ∈ s then
    let deviceAddress := String.ofList (s.takeWhile (· ≠ addressSeparator))
    let channelNo := (s.dropWhile (· ≠ addressSeparator)).tail
    if addressSeparator ∈ channelNo then none
    else if channelNo = "None".toList then some (deviceAddress, none)
    else (int? channelNo).map fun no => (deviceAddress, some no)
  else some (channelAddress, none)

def getDeviceAddress (address : String) : Option String :=
  (getSplitChannelAddress address).map Prod.fst

/-- Inner `none`: an address without channel number. -/
def getChannelNo (address : String) : Option (Option Int) :=
  (getSplitChannelAddress address).map Prod.snd

/-- The address of a device, not of a channel. -/
def IsDevice (address : String) : Prop := addressSeparator ∉ address.toList

instance (address : String) : Decidable (IsDevice address) :=
  inferInstanceAs (Decidable (addressSeparator ∉ address.toList))

theorem getDeviceAddress_of_isDevice {address : String} (h : IsDevice address) :
    getDeviceAddress address = some address := by
  simp only [getDeviceAddress, getSplitChannelAddress]
  rw [if_neg h]
  rfl

theorem getChannelNo_of_getDeviceAddress {address deviceAddress : String}
    (h : getDeviceAddress address = some deviceAddress) : ∃ no, getChannelNo address = some no := by
  obtain ⟨parts, hparts, -⟩ := Option.map_eq_some_iff.mp h
  exact ⟨parts.2, Option.map_eq_some_iff.mpr ⟨parts, hparts, rfl⟩⟩

theorem isDevice_of_getDeviceAddress {address deviceAddress : String}
    (h : getDeviceAddress address = some deviceAddress) : IsDevice deviceAddress := by
  have htake : addressSeparator ∉
      (String.ofList (address.toList.takeWhile (· ≠ addressSeparator))).toList := by
    rw [String.toList_ofList]
    intro hmem
    simpa using List.mem_takeWhile_imp hmem
  simp only [getDeviceAddress, getSplitChannelAddress] at h
  split at h
  · split at h
    · cases h
    · split at h
      · cases h
        exact htake
      · obtain ⟨⟨device, no⟩, hsplit, rfl⟩ := Option.map_eq_some_iff.mp h
        obtain ⟨n, -, hn⟩ := Option.map_eq_some_iff.mp hsplit
        cases hn
        exact htake
  · cases h
    assumption

example : getSplitChannelAddress "VCU0000001:12" = some ("VCU0000001", some 12) := by decide

end AioHomematic.Support
