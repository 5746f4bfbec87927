import ScriptScope.Inference.Lineage

/-!
# Listing a lineage

The members of a class are listed along its lineage, and a class that was listed before is known by
its address. A class of the store keeps its address for good. A class made up by a lookup does not:
it is gone once the listing has turned to the next superclass, and a class made up later may come to
lie where it was. Such a class is taken for the one before, and passed over.

Which addresses are given out is left open. The only law of a `Heap` is that what exists at the same
time lies apart: the class that is made up next, and the one that the listing still holds. The one
it holds is the superclass that it looked up last, unless this was a class of the store; a host
class is not looked up.

Two heaps stand for the extremes. In the `ample` one no address comes back; in the `recycling` one
an address comes back as soon as it is free, if the listing has come to nothing else since.
-/

namespace ScriptScope

/-- What a listing comes to: a place on the lineage, with the address of a class that was made up.
-/
inductive Stop where
  | host (members : List Host.Member)
  | script (id : ClassId)
  | made (info : ClassInfo) (address : Nat)
  deriving DecidableEq, Repr

namespace Stop

/-- The place on the lineage. -/
def place : Stop → Ancestor
  | host members => .host members
  | script id => .script id
  | made info _ => .made info

/-- The addresses of the classes that were made up for some stops. -/
def addresses (stops : List Stop) : List Nat :=
  stops.filterMap fun
    | made _ address => some address
    | _ => none

@[simp] theorem addresses_nil : addresses [] = [] := rfl

@[simp] theorem addresses_host (members : List Host.Member) (rest : List Stop) :
    addresses (.host members :: rest) = addresses rest := rfl

@[simp] theorem addresses_script (id : ClassId) (rest : List Stop) :
    addresses (.script id :: rest) = addresses rest := rfl

@[simp] theorem addresses_made (info : ClassInfo) (address : Nat) (rest : List Stop) :
    addresses (.made info address :: rest) = address :: addresses rest := rfl

end Stop

/-- How classes that are made up during a listing are laid out. -/
structure Heap where
  /-- The address of a class that is made up after some stops, the latest first, while the class at
  the address `held` still exists. -/
  address (stops : List Stop) (held : Option Nat) (info : ClassInfo) : Nat
  apart : ∀ stops held info, address stops (some held) info ≠ held

namespace Heap

/-- An address above all that were used by some stops and the one that is held. -/
def above (stops : List Stop) (held : Option Nat) : Nat :=
  (held.toList ++ Stop.addresses stops).max?.getD 0 + 1

theorem lt_above_held (stops : List Stop) (held : Nat) : held < above stops (some held) :=
  Nat.lt_succ_of_le (List.le_max?_getD_of_mem (by simp))

theorem lt_above_of_mem {stops : List Stop} {address : Nat} (h : address ∈ Stop.addresses stops)
    (held : Option Nat) : address < above stops held :=
  Nat.lt_succ_of_le (List.le_max?_getD_of_mem (List.mem_append_right _ h))

/-- There is always room: no address comes back. -/
def ample : Heap where
  address stops held _ := above stops held
  apart stops held _ := Nat.ne_of_gt (lt_above_held stops held)

/-- The address of the class that was made up last comes back as soon as this class is gone, unless
the listing came to another place since. -/
def recycling : Heap where
  address
    | .made _ address :: _, none, _ => address
    | stops, held, _ => above stops held
  apart stops held _ := by simpa using Nat.ne_of_gt (lt_above_held stops held)

end Heap

namespace Store

/-- What the superclasses of a class stand for, in their turn. -/
def turns (ctx : Context) (st : Store) (c : ClassInfo) : List (Option Ancestor) :=
  c.bases.map (superclass? ctx st c)

/-- The stops of a listing through places yet to be visited, after the stops `done` and while the
class at the address `held` still exists. At a turn without a place the listing has found nothing,
or is through with the superclasses of a class, and lets go of what it held. -/
def stopsFrom (heap : Heap) (ctx : Context) (st : Store) (fresh : List ClassId)
    (done : List Stop) (held : Option Nat) : List (Option Ancestor) → List Stop
  | [] => []
  | none :: rest => stopsFrom heap ctx st fresh done none rest
  | some (.host members) :: rest =>
    .host members :: stopsFrom heap ctx st fresh (.host members :: done) held rest
  | some (.made info) :: rest =>
    let address := heap.address done held info
    .made info address ::
      stopsFrom heap ctx st fresh (.made info address :: done) (some address) rest
  | some (.script id) :: rest =>
    if id ∈ fresh then
      .script id :: stopsFrom heap ctx st (fresh.erase id) (.script id :: done) none
        (turns ctx st (st.cls id) ++ none :: rest)
    else stopsFrom heap ctx st fresh done none rest
termination_by pending => (fresh.length, pending.length)
decreasing_by
  all_goals simp_wf
  all_goals try (apply Prod.Lex.right; omega)
  all_goals
    apply Prod.Lex.left
    have hmem : id ∈ fresh := by assumption
    have := List.length_pos_of_mem hmem
    rw [List.length_erase_of_mem hmem]
    omega

/-- The stops of a listing of the members of a class. -/
def stops (ctx : Context) (st : Store) (start : Ancestor) (heap : Heap) : List Stop :=
  stopsFrom heap ctx st st.classIds [] none [some start]

/-- The places of some stops, without the classes at an address that was listed before. -/
def listedFrom (listed : List Nat) : List Stop → List Ancestor
  | [] => []
  | .made info address :: rest =>
    if address ∈ listed then listedFrom listed rest
    else .made info :: listedFrom (address :: listed) rest
  | stop :: rest => stop.place :: listedFrom listed rest

/-- The places at which the members of a class are listed. -/
def listing (ctx : Context) (st : Store) (start : Ancestor) (heap : Heap) : List Ancestor :=
  listedFrom [] (stops ctx st start heap)

end Store

end ScriptScope
