import Usbipdcpp.Foundation.DataRefinement
import Usbipdcpp.Protocol.Responses
import Usbipdcpp.Utils.StringPool

namespace Usbipdcpp.VirtualDevice

open Foundation.DataRefinement Foundation.NamedCells
open Protocol
open Utils

/-- The strings of a device handler. -/
inductive DeviceString where
  | configuration
  | manufacturer
  | product
  | serial
  deriving DecidableEq, Repr

/-- What an index into the string pool is kept as: by a device handler, by the handler of an
interface, and by whoever else has put a string into the pool. -/
inductive StringName (Handler : Type) where
  | device (handler : Handler) (field : DeviceString)
  | interface (handler : Handler)
  | other (owner : Handler)
  deriving DecidableEq, Repr

variable {Handler : Type}

/-- A string pool with the indices that are kept; where none is kept it is 0. -/
structure HandlerStrings (Handler : Type) where
  pool : StringPool
  index : StringName Handler → UInt8

inductive StringCall (Handler : Type) where
  | constructDevice (handler : Handler)
  | changeDeviceString (handler : Handler) (field : DeviceString) (newStr : WString)
  | constructInterface (handler : Handler)
  | changeStringInterface (handler : Handler) (newStr : WString)
  | syncStringInterfaceFrom (handler other : Handler)
  | newString (owner : Handler) (str : WString)
  | removeString (owner : Handler)
  | getString (name : StringName Handler)
  | getStringDescriptor (name : StringName Handler) (descriptorLength : UInt16)

inductive StringAnswer where
  | done
  | threw (error : StringPoolError)
  | string (str : WString)
  | descriptor (desc : List UInt8) (status : UInt32)
  deriving DecidableEq, Repr

def wide (s : String) : WString := s.toList.map Char.val

def languageDescriptor : List UInt8 := [4, 3, 0x09, 0x04]

def stringDescriptor (string : WString) : List UInt8 :=
  [UInt8.ofNat ((string.length + 1) * 2), 3] ++
    string.flatMap fun (i : UInt32) => [i.toUInt8, (i >>> 8).toUInt8]

def getStringDescriptor (pool : StringPool) (index : UInt8) (descriptorLength : UInt16) :
    List UInt8 × UInt32 :=
  if index = 0 then (languageDescriptor.take descriptorLength.toNat, UrbStatusType.statusOK)
  else
    match pool.getString index with
    | some string =>
        ((stringDescriptor string).take descriptorLength.toNat, UrbStatusType.statusOK)
    | none => ([], UrbStatusType.statusEPIPE)

namespace HandlerStrings

variable [DecidableEq Handler]

def initial : HandlerStrings Handler := ⟨.empty, fun _ => 0⟩

def newString (name : StringName Handler) (str : WString) (s : HandlerStrings Handler) :
    StringAnswer × HandlerStrings Handler :=
  match s.pool.newString str with
  | .ok (index, pool) => (.done, ⟨pool, Function.update s.index name index⟩)
  | .error e => (.threw e, s)

def changeString (name : StringName Handler) (newStr : WString) (s : HandlerStrings Handler) :
    StringAnswer × HandlerStrings Handler :=
  match s.pool.changeString (s.index name) newStr with
  | .ok pool => (.done, { s with pool })
  | .error e => (.threw e, s)

/-- Where a string is refused there is no handler, and the strings before it stay in the pool. -/
def constructDevice (handler : Handler) (s : HandlerStrings Handler) :
    StringAnswer × HandlerStrings Handler :=
  match s.pool.newString (wide "Default Configuration") with
  | .error e => (.threw e, s)
  | .ok (configuration, pool) =>
      match pool.newString (wide "Usbipdcpp") with
      | .error e => (.threw e, { s with pool })
      | .ok (manufacturer, pool) =>
          match pool.newString (wide "Usbipdcpp Virtual Device") with
          | .error e => (.threw e, { s with pool })
          | .ok (product, pool) =>
              let index := Function.update s.index (.device handler .configuration) configuration
              let index := Function.update index (.device handler .manufacturer) manufacturer
              let index := Function.update index (.device handler .product) product
              (.done, ⟨pool, Function.update index (.device handler .serial) 0⟩)

def call (s : HandlerStrings Handler) :
    StringCall Handler → StringAnswer × HandlerStrings Handler
  | .constructDevice handler => s.constructDevice handler
  | .changeDeviceString handler field newStr =>
      if s.index (.device handler field) = 0 then s.newString (.device handler field) newStr
      else s.changeString (.device handler field) newStr
  | .constructInterface handler =>
      s.newString (.interface handler) (wide "Usbipdcpp Virtual Interface")
  | .changeStringInterface handler newStr => s.changeString (.interface handler) newStr
  | .syncStringInterfaceFrom handler other =>
      (.done, { s with
        index := Function.update s.index (.interface handler) (s.index (.interface other)) })
  | .newString owner str => s.newString (.other owner) str
  | .removeString owner =>
      (.done, ⟨s.pool.removeString (s.index (.other owner)),
        Function.update s.index (.other owner) 0⟩)
  | .getString name => (.string ((s.pool.getString (s.index name)).getD []), s)
  | .getStringDescriptor name descriptorLength =>
      let (desc, status) := VirtualDevice.getStringDescriptor s.pool (s.index name) descriptorLength
      (.descriptor desc status, s)

end HandlerStrings

/-- String variables, one for each handler's name, and room for 255 strings. -/
abbrev StringVariables (Handler : Type) : Type := Variables (StringName Handler) WString

namespace StringVariables

variable [DecidableEq Handler]

def initial : StringVariables Handler := ⟨fun _ => none, fun _ => [], 0, 0⟩

def newString (name : StringName Handler) (str : WString) (v : StringVariables Handler) :
    StringAnswer × StringVariables Handler :=
  if v.used < 255 then (.done, v.create name str) else (.threw .noBufferSpace, v)

/-- What the calls of the handlers do to their variables. -/
def call (v : StringVariables Handler) :
    StringCall Handler → StringAnswer × StringVariables Handler
  | .constructDevice handler =>
      if v.used + 3 ≤ 255 then
        let v := v.create (.device handler .configuration) (wide "Default Configuration")
        let v := v.create (.device handler .manufacturer) (wide "Usbipdcpp")
        let v := v.create (.device handler .product) (wide "Usbipdcpp Virtual Device")
        (.done, v.forget (.device handler .serial))
      else (.threw .noBufferSpace, { v with used := 255 })
  | .changeDeviceString handler field newStr =>
      match v.cell (.device handler field) with
      | none => newString (.device handler field) newStr v
      | some c => (.done, v.assign c newStr)
  | .constructInterface handler =>
      newString (.interface handler) (wide "Usbipdcpp Virtual Interface") v
  | .changeStringInterface handler newStr =>
      match v.cell (.interface handler) with
      | none => (.threw .invalidArgument, v)
      | some c => (.done, v.assign c newStr)
  | .syncStringInterfaceFrom handler other =>
      (.done, v.share (.interface handler) (.interface other))
  | .newString owner str => newString (.other owner) str v
  | .removeString owner =>
      match v.cell (.other owner) with
      | none => (.done, v)
      | some _ => (.done, v.drop (.other owner))
  | .getString name => (.string ((v.read name).getD []), v)
  | .getStringDescriptor name descriptorLength =>
      match v.read name with
      | none =>
          (.descriptor (languageDescriptor.take descriptorLength.toNat) UrbStatusType.statusOK, v)
      | some string =>
          (.descriptor ((stringDescriptor string).take descriptorLength.toNat)
            UrbStatusType.statusOK, v)

end StringVariables

/-- The pool holds the variables of the handlers, each in a place of its own, and what is neither
a device's nor an interface's is shared with nothing. -/
structure StandsFor (s : HandlerStrings Handler) (v : StringVariables Handler)
    (place : Nat → UInt8) : Prop where
  holds : Holds StringPool.indices 0 s.pool.strings s.index v place
  zero : s.pool.strings 0 = none
  unshared : ∀ owner, v.Unshared (.other owner)

theorem standsFor_initial [DecidableEq Handler] :
    StandsFor (.initial : HandlerStrings Handler) .initial fun _ => 0 where
  holds :=
    { used := by simp [taken, HandlerStrings.initial, StringPool.empty, StringVariables.initial]
      index_eq := fun _ => rfl
      held := fun _ hc => hc.elim fun _ hcell => by cases hcell
      injective := fun _ _ hc => hc.elim fun _ hcell => by cases hcell }
  zero := rfl
  unshared := fun _ _ _ hcell => by cases hcell

namespace StandsFor

variable {s : HandlerStrings Handler} {v : StringVariables Handler} {place : Nat → UInt8}

theorem index_ne_zero (h : StandsFor s v place) {name : StringName Handler} {c : Nat}
    (hc : v.cell name = some c) : s.index name ≠ 0 := by
  intro hzero
  have hmem := (h.holds.held c ⟨name, hc⟩).1
  rw [← (h.holds.read_eq hc).1, hzero] at hmem
  exact StringPool.zero_notMem_indices hmem

theorem getString_eq (h : StandsFor s v place) (name : StringName Handler) :
    s.pool.getString (s.index name) = v.read name := by
  cases hc : v.cell name with
  | none =>
      rw [h.holds.nowhere_eq hc, Variables.read, hc]
      exact h.zero
  | some c => exact (h.holds.read_eq hc).2

theorem leak (h : StandsFor s v place) {index : UInt8}
    (hfree : firstFree StringPool.indices s.pool.strings = some index) (str : WString) :
    StandsFor { s with pool := ⟨Function.update s.pool.strings index (some str)⟩ } v.leak
      place where
  holds := h.holds.leak StringPool.nodup_indices hfree str
  zero := by
    have hmem := (mem_of_firstFree hfree).1
    have hne : 0 ≠ index := (ne_of_mem_of_not_mem hmem StringPool.zero_notMem_indices).symm
    exact (Function.update_of_ne hne _ _).trans h.zero
  unshared := h.unshared

theorem assign (h : StandsFor s v place) {name : StringName Handler} {c : Nat}
    (hc : v.cell name = some c) (str : WString) :
    StandsFor { s with pool := ⟨Function.update s.pool.strings (s.index name) (some str)⟩ }
      (v.assign c str) place where
  holds := h.holds.assign StringPool.nodup_indices hc str
  zero := (Function.update_of_ne (h.index_ne_zero hc).symm _ _).trans h.zero
  unshared := h.unshared

theorem changeString_of_some (h : StandsFor s v place) {name : StringName Handler} {c : Nat}
    (hc : v.cell name = some c) (str : WString) :
    s.changeString name str =
      (.done, { s with
        pool := ⟨Function.update s.pool.strings (s.index name) (some str)⟩ }) := by
  have hsome : (s.pool.strings (s.index name)).isSome := by
    rw [(h.holds.read_eq hc).2, Variables.read, hc]
    rfl
  rw [HandlerStrings.changeString, StringPool.changeString, if_pos hsome]

theorem changeString_of_none (h : StandsFor s v place) {name : StringName Handler}
    (hc : v.cell name = none) (str : WString) :
    s.changeString name str = (.threw .invalidArgument, s) := by
  have hnone : ¬ (s.pool.strings (s.index name)).isSome := by
    rw [h.holds.nowhere_eq hc, h.zero]
    exact Bool.false_ne_true
  rw [HandlerStrings.changeString, StringPool.changeString, if_neg hnone]

variable [DecidableEq Handler]

theorem create (h : StandsFor s v place) {index : UInt8}
    (hfree : firstFree StringPool.indices s.pool.strings = some index)
    (name : StringName Handler) (str : WString) :
    StandsFor ⟨⟨Function.update s.pool.strings index (some str)⟩,
      Function.update s.index name index⟩ (v.create name str)
      (Function.update place v.next index) where
  holds := h.holds.create StringPool.nodup_indices hfree name str
  zero := by
    have hmem := (mem_of_firstFree hfree).1
    have hne : 0 ≠ index := (ne_of_mem_of_not_mem hmem StringPool.zero_notMem_indices).symm
    exact (Function.update_of_ne hne _ _).trans h.zero
  unshared owner :=
    Variables.unshared_create (fun c hc => (h.holds.held c hc).2.2) (h.unshared owner) str

theorem newString (h : StandsFor s v place) (name : StringName Handler) (str : WString) :
    (s.newString name str).1 = (StringVariables.newString name str v).1 ∧
      ∃ place', StandsFor (s.newString name str).2 (StringVariables.newString name str v).2
        place' := by
  rcases s.pool.newString_cases str with ⟨hfull, hrefused⟩ | ⟨index, hfree, hroom, hnew⟩
  · rw [h.holds.used] at hfull
    rw [HandlerStrings.newString, StringVariables.newString, hrefused, if_neg (by omega)]
    exact ⟨rfl, place, h⟩
  · rw [h.holds.used] at hroom
    rw [HandlerStrings.newString, StringVariables.newString, hnew, if_pos hroom]
    exact ⟨rfl, _, h.create hfree name str⟩

theorem forget (h : StandsFor s v place) (name : StringName Handler) :
    StandsFor ⟨s.pool, Function.update s.index name 0⟩ (v.forget name) place where
  holds := h.holds.forget name
  zero := h.zero
  unshared owner := Variables.unshared_forget (h.unshared owner)

/-- A handler has all its strings, or there is none of it, and no room is left in the pool. -/
theorem constructDevice (h : StandsFor s v place) (handler : Handler) :
    (s.constructDevice handler).1 =
        (StringVariables.call v (.constructDevice handler)).1 ∧
      ∃ place', StandsFor (s.constructDevice handler).2
        (StringVariables.call v (.constructDevice handler)).2 place' := by
  have hused := h.holds.used
  have hrefuses {t : StringVariables Handler} (ht : v.used + 3 > 255) (hfull : t.used = 255)
      (hcell : t = { v with used := t.used }) :
      StringVariables.call v (.constructDevice handler) = (.threw .noBufferSpace, t) := by
    rw [StringVariables.call, if_neg (by omega), hcell, hfull]
  rcases s.pool.newString_cases (wide "Default Configuration") with
    ⟨hfull, hfirst⟩ | ⟨configuration, hfree, -, hfirst⟩
  · rw [HandlerStrings.constructDevice, hfirst, hrefuses (t := v) (by omega) (by omega) rfl]
    exact ⟨rfl, place, h⟩
  have hleak := h.leak hfree (wide "Default Configuration")
  have hcreate := h.create hfree (.device handler .configuration) (wide "Default Configuration")
  have hused' := hleak.holds.used
  rcases StringPool.newString_cases (wide "Usbipdcpp") ⟨Function.update s.pool.strings configuration
      (some (wide "Default Configuration"))⟩ with
    ⟨hfull, hsecond⟩ | ⟨manufacturer, hfree', -, hsecond⟩
  · rw [hfull] at hused'
    rw [HandlerStrings.constructDevice, hfirst]
    dsimp only
    rw [hsecond, hrefuses (t := v.leak) _ hused'.symm rfl]
    · exact ⟨rfl, place, hleak⟩
    · change 255 = v.used + 1 at hused'
      omega
  have hleak' := hleak.leak hfree' (wide "Usbipdcpp")
  have hcreate' := hcreate.create hfree' (.device handler .manufacturer) (wide "Usbipdcpp")
  have hused'' := hleak'.holds.used
  rcases StringPool.newString_cases (wide "Usbipdcpp Virtual Device") ⟨Function.update
      (Function.update s.pool.strings configuration (some (wide "Default Configuration")))
        manufacturer (some (wide "Usbipdcpp"))⟩ with
    ⟨hfull, hthird⟩ | ⟨product, hfree'', hroom, hthird⟩
  · rw [hfull] at hused''
    rw [HandlerStrings.constructDevice, hfirst]
    dsimp only
    rw [hsecond]
    dsimp only
    rw [hthird, hrefuses (t := v.leak.leak) _ hused''.symm rfl]
    · exact ⟨rfl, place, hleak'⟩
    · change 255 = v.used + 1 + 1 at hused''
      omega
  · have hcreate'' := hcreate'.create hfree'' (.device handler .product)
      (wide "Usbipdcpp Virtual Device")
    rw [hused''] at hroom
    change v.used + 1 + 1 < 255 at hroom
    rw [HandlerStrings.constructDevice, hfirst]
    dsimp only
    rw [hsecond]
    dsimp only
    rw [hthird, StringVariables.call, if_pos (by omega)]
    exact ⟨rfl, _, hcreate''.forget (.device handler .serial)⟩

end StandsFor

variable [DecidableEq Handler]

theorem call_refines : Refines (@HandlerStrings.call Handler _)
    (graph StringVariables.call) fun s v => ∃ place, StandsFor s v place := by
  rintro s v call ⟨place, h⟩
  suffices hcall : (s.call call).1 = (StringVariables.call v call).1 ∧
      ∃ place', StandsFor (s.call call).2 (StringVariables.call v call).2 place' by
    exact ⟨_, Prod.ext hcall.1.symm rfl, hcall.2⟩
  cases call with
  | constructDevice handler => exact h.constructDevice handler
  | changeDeviceString handler field newStr =>
      cases hc : v.cell (.device handler field) with
      | none =>
          simp only [HandlerStrings.call, StringVariables.call, hc, h.holds.nowhere_eq hc, if_true]
          exact h.newString _ newStr
      | some c =>
          simp only [HandlerStrings.call, StringVariables.call, hc, h.index_ne_zero hc, if_false,
            h.changeString_of_some hc]
          exact ⟨trivial, place, h.assign hc newStr⟩
  | constructInterface handler => exact h.newString _ _
  | changeStringInterface handler newStr =>
      cases hc : v.cell (.interface handler) with
      | none =>
          simp only [HandlerStrings.call, StringVariables.call, hc, h.changeString_of_none hc]
          exact ⟨trivial, place, h⟩
      | some c =>
          simp only [HandlerStrings.call, StringVariables.call, hc, h.changeString_of_some hc]
          exact ⟨trivial, place, h.assign hc newStr⟩
  | syncStringInterfaceFrom handler other =>
      exact ⟨rfl, place, h.holds.share _ _, h.zero, fun owner =>
        Variables.unshared_share (by simp) (by simp) (h.unshared owner)⟩
  | newString owner str => exact h.newString _ str
  | removeString owner =>
      cases hc : v.cell (.other owner) with
      | none =>
          simp only [HandlerStrings.call, StringVariables.call, hc]
          have hindex := h.holds.nowhere_eq hc
          have hstrings : s.pool.removeString (s.index (.other owner)) = s.pool := by
            rw [hindex, StringPool.removeString, ← h.zero, Function.update_eq_self]
          have hsame : Function.update s.index (.other owner) 0 = s.index := by
            rw [← hindex, Function.update_eq_self]
          rw [hstrings, hsame]
          exact ⟨trivial, place, h⟩
      | some c =>
          simp only [HandlerStrings.call, StringVariables.call, hc]
          refine ⟨trivial, place, h.holds.drop StringPool.nodup_indices hc (h.unshared owner), ?_,
            fun owner' => Variables.unshared_forget (h.unshared owner')⟩
          exact (Function.update_of_ne (h.index_ne_zero hc).symm _ _).trans h.zero
  | getString name =>
      simp only [HandlerStrings.call, StringVariables.call, h.getString_eq]
      exact ⟨trivial, place, h⟩
  | getStringDescriptor name descriptorLength =>
      cases hc : v.cell name with
      | none =>
          simp only [HandlerStrings.call, StringVariables.call, Variables.read, hc,
            getStringDescriptor, h.holds.nowhere_eq hc, if_true, Option.map_none]
          exact ⟨trivial, place, h⟩
      | some c =>
          have hread := h.getString_eq name
          rw [Variables.read, hc] at hread
          simp only [HandlerStrings.call, StringVariables.call, Variables.read, hc,
            getStringDescriptor, h.index_ne_zero hc, if_false, hread, Option.map_some]
          exact ⟨trivial, place, h⟩

/-- Whatever devices, interfaces and others share a pool, in whatever order they make, change and
remove their strings: each finds what it would find in variables of its own, shared only where one
interface takes its string from another, and so does the host that asks for the descriptors; and a
string is refused where 255 are held, and only there. -/
theorem strings_refine_variables (calls : List (StringCall Handler)) :
    (run HandlerStrings.call .initial calls).1 =
      (run StringVariables.call .initial calls).1 :=
  (call_refines.answers_eq ⟨_, standsFor_initial⟩ calls).1

def readUnits : List UInt8 → List UInt16
  | low :: high :: rest => .ofNat (low.toNat + 256 * high.toNat) :: readUnits rest
  | _ => []

/-- What the host makes of a descriptor, whose first byte tells it how much to read. -/
def hostString : List UInt8 → List UInt16
  | length :: _ :: units => readUnits (units.take (length.toNat - 2))
  | _ => []

theorem two_mul_length_readUnits_le (units : List UInt8) :
    2 * (readUnits units).length ≤ units.length := by
  fun_induction readUnits units with
  | case1 low high rest ih =>
      simp only [List.length_cons]
      omega
  | case2 => simp

theorem readUnits_flatMap (str : WString) :
    readUnits (str.flatMap fun (i : UInt32) => [i.toUInt8, (i >>> 8).toUInt8]) =
      str.map UInt32.toUInt16 := by
  induction str with
  | nil => rfl
  | cons i str ih =>
      have hunit : UInt16.ofNat (i.toUInt8.toNat + 256 * (i >>> 8).toUInt8.toNat) =
          i.toUInt16 := by
        have hshift : (i >>> 8).toNat = i.toNat / 256 :=
          (UInt32.toNat_shiftRight i 8).trans (Nat.shiftRight_eq_div_pow i.toNat 8)
        refine UInt16.toNat_inj.mp ?_
        rw [UInt16.toNat_ofNat', UInt32.toNat_toUInt8, UInt32.toNat_toUInt8, hshift,
          UInt32.toNat_toUInt16]
        omega
      rw [List.flatMap_cons, List.map_cons, ← ih, ← hunit]
      rfl

theorem length_stringDescriptor (str : WString) :
    (stringDescriptor str).length = 2 * str.length + 2 := by
  simp [stringDescriptor, List.length_flatMap]
  omega

/-- The bytes of a string's units, least significant byte first. -/
def unitBytes (str : WString) : List UInt8 :=
  str.flatMap fun (i : UInt32) => [i.toUInt8, (i >>> 8).toUInt8]

theorem hostString_take (str : WString) (n : Nat) :
    hostString ((stringDescriptor str).take (n + 2)) =
      readUnits (((unitBytes str).take n).take
        ((UInt8.ofNat ((str.length + 1) * 2)).toNat - 2)) := rfl

/-- The length of a descriptor is one byte, and so has room for 126 units. -/
theorem hostString_eq_iff (str : WString) :
    hostString ((stringDescriptor str).take 255) = str.map UInt32.toUInt16 ↔
      str.length ≤ 126 := by
  rw [hostString_take str 253]
  constructor
  · intro h
    by_contra hlong
    have hread := two_mul_length_readUnits_le
      (((unitBytes str).take 253).take ((UInt8.ofNat ((str.length + 1) * 2)).toNat - 2))
    rw [h, List.length_map, List.length_take, List.length_take] at hread
    have hbyte := (UInt8.ofNat ((str.length + 1) * 2)).toNat_lt
    omega
  · intro hshort
    have hbytes : (unitBytes str).length = 2 * str.length := by
      have hlength := length_stringDescriptor str
      change (unitBytes str).length + 1 + 1 = _ at hlength
      omega
    have hlength : (UInt8.ofNat ((str.length + 1) * 2)).toNat = (str.length + 1) * 2 :=
      UInt8.toNat_ofNat_of_lt' (by change _ < 256; omega)
    rw [hlength, List.take_of_length_le (by omega : (unitBytes str).length ≤ 253),
      List.take_of_length_le (by omega), unitBytes, readUnits_flatMap]

/-- After any calls, a host that asks for the string of a name reads the units of the last one that
the name's variable has been given, just where there are at most 126. -/
theorem host_reads_string_iff (calls : List (StringCall Handler)) (name : StringName Handler)
    (str : WString)
    (hread : (run StringVariables.call .initial calls).2.read name = some str) :
    hostString (getStringDescriptor (run HandlerStrings.call .initial calls).2.pool
        ((run HandlerStrings.call .initial calls).2.index name) 255).1 =
          str.map UInt32.toUInt16 ↔
      str.length ≤ 126 := by
  obtain ⟨-, place, h⟩ := call_refines.answers_eq ⟨_, standsFor_initial⟩ calls
  obtain ⟨c, hc, -⟩ := Option.map_eq_some_iff.mp hread
  have hstring := h.getString_eq name
  rw [hread] at hstring
  rw [getStringDescriptor, if_neg (h.index_ne_zero hc), hstring]
  exact hostString_eq_iff str

theorem host_reads_string_iff_instance :
    hostString (getStringDescriptor
        (run HandlerStrings.call (.initial : HandlerStrings Unit)
          [.constructDevice (), .changeDeviceString () .serial [0x41, 0x42]]).2.pool
        ((run HandlerStrings.call (.initial : HandlerStrings Unit)
          [.constructDevice (), .changeDeviceString () .serial [0x41, 0x42]]).2.index
            (.device () .serial)) 255).1 = [0x41, 0x42] :=
  (host_reads_string_iff
    [.constructDevice (), .changeDeviceString () .serial [0x41, 0x42]]
    (.device () .serial) [0x41, 0x42] rfl).mpr (by decide)

end Usbipdcpp.VirtualDevice
