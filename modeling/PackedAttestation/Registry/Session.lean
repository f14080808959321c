import PackedAttestation.Registry

/-! # Sessions with several registries

A session is a list of registries, each known by its index.  A step adds a registry,
registers a verifier, or asks something, and has a reply.
-/
namespace PackedAttestation

/-- The registries of a session, in the order in which they were added. -/
abbrev Session := List Registry

namespace Session

/-- What is asked of a session. -/
inductive Step where
  /-- Adds an empty registry. -/
  | new
  /-- Adds the registry with all formats of this library. -/
  | standard
  /-- Adds a copy of a registry. -/
  | copy (source : Nat)
  | register (index : Nat) (format : String) (verifier : Verifier)
  | formats (index : Nat)
  | get (index : Nat) (format : String)
  | verify (index : Nat) (format : String) (value : Cbor) (auth : AuthenticatorData)
      (clientDataHash : Bytes)

/-- The reply to a step. -/
inductive Reply where
  /-- A registry was added. -/
  | added (index : Nat) (registry : Registry)
  /-- A verifier was registered, which gave the registry shown. `replaced` is the name if it
  had another verifier before. -/
  | registered (registry : Registry) (replaced : Option String)
  | formats (names : List String)
  /-- Whether there is a verifier. -/
  | found (present : Bool)
  | verdict (outcome : Except Error Attestation)
  /-- There is no registry with the index. -/
  | noRegistry

/-- Adds a registry at the end. -/
def add (session : Session) (registry : Registry) : Session × Reply :=
  (session ++ [registry], .added session.length registry)

/-- Registers a verifier in one registry. -/
def register (session : Session) (index : Nat) (registry : Registry) (format : String)
    (verifier : Verifier) : Session × Reply :=
  let next := registry.insert format verifier
  let replaced := if (registry.get? format).isSome then some format else none
  (session.set index next, .registered next replaced)

/-- Takes one step on the registry with an index. -/
def onRegistry (session : Session) (index : Nat) (act : Registry → Session × Reply) :
    Session × Reply :=
  match session[index]? with
  | some registry => act registry
  | none => (session, .noRegistry)

/-- Takes one step. -/
def step (session : Session) : Step → Session × Reply
  | .new => session.add Registry.empty
  | .standard => session.add Registry.standard
  | .copy source => session.onRegistry source session.add
  | .register index format verifier =>
    session.onRegistry index fun registry => session.register index registry format verifier
  | .formats index => session.onRegistry index fun registry => (session, .formats registry.formats)
  | .get index format =>
    session.onRegistry index fun registry => (session, .found (registry.get? format).isSome)
  | .verify index format value auth clientDataHash =>
    session.onRegistry index fun registry =>
      (session, .verdict (registry.verify format value auth clientDataHash).outcome)

/-- Takes steps in order, and collects the replies. -/
def run (session : Session) : List Step → Session × List Reply
  | [] => (session, [])
  | s :: rest =>
    let (next, reply) := session.step s
    let (last, replies) := run next rest
    (last, reply :: replies)

end Session
end PackedAttestation
