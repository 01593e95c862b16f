import SchemaSharp.World

/-!
Resolvers: one document, the way it is read, and the parameters of the reading. A resolver keeps
parameters that it has no use for.
-/

namespace SchemaSharp

/-- An unspecific resolver only keeps its parameters. -/
inductive ResolverKind where
  | unspecific
  | file
  | web
  deriving DecidableEq, Repr

def ResolverKind.ofLocation (location : String) : Except Location.HostFault ResolverKind :=
  (Location.isRemote location).map fun remote => if remote then .web else .file

inductive ResolverFault where
  | tooManyArguments
  | noLocation
  | cannotLoad
  | cannotProbe
  deriving DecidableEq, Repr

def ResolverFault.message : ResolverFault → String
  | .tooManyArguments => "list index out of range"
  | .noLocation => "'location'"
  | .cannotLoad => "Subclasses must implement load()"
  | .cannotProbe => "Subclasses must implement exists()"

namespace Resolver

/-- Names for the arguments without one, in order. -/
def positions : List String := ["location"]

def defaultTimeout : Nat := 30

/-- Parameters by name. An argument in its position beats the same one by name, which beats the
default. -/
def parameters {α : Type} (defaults : List (String × α)) (positional : List α)
    (named : List (String × α)) : Except ResolverFault (List (String × α)) :=
  if positions.length < positional.length then .error .tooManyArguments
  else
    let placed := positions.zip positional
    let isPlaced (name : String) : Bool := (placed.lookup name).isSome
    let others := named.filter fun (name, _) => !isPlaced name
    let missing := defaults.filter fun (name, _) =>
      !isPlaced name && (others.lookup name).isNone
    .ok (placed ++ missing ++ others)

def probe (kind : ResolverKind) (world : World) (location : String) :
    Except ResolverFault (Answer Bool) :=
  match kind with
  | .unspecific => .error .cannotProbe
  | .file => .ok (world.probeFile location)
  | .web => .ok (world.probeWeb location)

def load (kind : ResolverKind) (world : World) (location : String) :
    Except ResolverFault (Except Failure (List UInt8)) :=
  match kind with
  | .unspecific => .error .cannotLoad
  | .file => .ok (world.readFile location)
  | .web => .ok (world.readWeb location)

end Resolver

end SchemaSharp
