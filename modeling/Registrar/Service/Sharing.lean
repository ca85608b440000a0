import Registrar.Service.Catalog

/-
  This file defines how catalogs are used.  A catalog answers
  calls, one after the other.  Calls go through handles, and
  several handles can lead to one catalog.

  Key definitions include:
    * `Catalog.Call`
    * `Catalog.Reply`
    * `Catalog.serve`
    * `Registry`
    * `Registry.step`
    * `Registry.run`
-/

------------------------------------------------------------
-- Calls
------------------------------------------------------------

namespace Registrar

namespace Catalog

/- What a catalog can be asked for. -/
inductive Call where
| add (id : String) (kind : Kind) (records : List Record)
| addText (id : String) (kind : Kind) (input : String)
| remove (id : String)
| list
| get (id : String)
deriving DecidableEq

/- What a catalog replies. -/
inductive Reply where
| ids (ids : List String)
| removed (id : String)
| listings (listings : List DataSet.Listing)
| found (dataSet : Option DataSet)
| failed (failure : Failure)
deriving DecidableEq

/- A change that fails leaves the catalog as it was. -/
def settle
    (catalog : Catalog)
    (reply : Catalog → Reply) :
    Except Failure Catalog → Catalog × Reply
| .ok next => (next, reply next)
| .error failure => (catalog, .failed failure)

/- The catalog after a call, and what it replies. -/
def serve (catalog : Catalog) : Call → Catalog × Reply
| .add id kind records =>
    catalog.settle (fun next => .ids next.ids)
      (catalog.add id kind records)
| .addText id kind input =>
    catalog.settle (fun next => .ids next.ids)
      (catalog.addText id kind input)
| .remove id =>
    catalog.settle (fun _ => .removed id) (catalog.remove id)
| .list => (catalog, .listings catalog.listings)
| .get id => (catalog, .found (catalog.get? id))

end Catalog

------------------------------------------------------------
-- Handles
------------------------------------------------------------

/- Catalogs, and to which of them each handle leads. -/
structure Registry where
  catalogs : List Catalog
  handles : List Nat
deriving DecidableEq

/- A call of the catalog at a place, and the reply. -/
structure Exchange where
  place : Nat
  call : Catalog.Call
  reply : Catalog.Reply
deriving DecidableEq

namespace Registry

/- No catalogs yet. -/
def start : Registry :=
  ⟨[], []⟩

/-
  What can be done: a new catalog comes with a handle, a copy
  of a handle leads where the handle does, and a call goes to
  the catalog that a handle leads to.
-/
inductive Action where
| create
| copy (handle : Nat)
| call (handle : Nat) (call : Catalog.Call)
deriving DecidableEq

/- The registry after one action, and what was exchanged. -/
def step (registry : Registry) :
    Action → Registry × Option Exchange
| .create =>
    (⟨registry.catalogs ++ [Catalog.empty],
      registry.handles ++ [registry.catalogs.length]⟩, none)
| .copy handle =>
    match registry.handles[handle]? with
    | none => (registry, none)
    | some place =>
        (⟨registry.catalogs, registry.handles ++ [place]⟩, none)
| .call handle call =>
    match registry.handles[handle]? with
    | none => (registry, none)
    | some place =>
        match registry.catalogs[place]? with
        | none => (registry, none)
        | some catalog =>
            let (next, reply) := catalog.serve call
            (⟨registry.catalogs.set place next,
              registry.handles⟩, some ⟨place, call, reply⟩)

/- The registry after some actions, and all exchanges. -/
def run (registry : Registry) :
    List Action → Registry × List Exchange
| [] => (registry, [])
| action :: rest =>
    let (next, exchange) := registry.step action
    let (last, exchanges) := next.run rest
    (last, exchange.toList ++ exchanges)

end Registry

end Registrar
