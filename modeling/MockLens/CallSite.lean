/-
**Call sites: which calls have a virtual type, and which one.**

A call is described by its *signature* — the marker `#M#`, then for a static call the letter `C` and
the fully qualified class, for a member call the candidate types of its receiver, then a dot and the
method — and by what is known of its arguments.  The calls of the mocking facade are recognised by
their signature; a member call gets a virtual type only when it is chained onto a stub.

Main definitions:

* `CallSite.Argument`, `ChainState`, `CallSite` — the description of a call;
* `CallKind.ofSignature` — the recognised calls of the facade;
* `CallSite.staticSignature`, `CallSite.memberSignature` — the signatures;
* `CallSite.virtualType` — the virtual type of a call, and `CallSite.key` its text.
-/
import MockLens.Key

set_option autoImplicit false

namespace MockLens

/-! ### Chains -/

/-- Whether a call continues a chain that began with a stub configuration. -/
inductive ChainState where
  | fresh
  | inStubChain
  deriving DecidableEq, Repr

namespace ChainState

/-- The state after a receiver of the given virtual type. -/
def after : Option VirtualType → ChainState
  | some (.stub _) => inStubChain
  | some .stubbedMethod => inStubChain
  | _ => fresh

/-- One candidate that continues a stub chain is enough. -/
def ofReceiver (types : List String) : ChainState :=
  if types.any (fun t => after (VirtualType.parse t) == inStubChain) then inStubChain else fresh

end ChainState

/-! ### Signatures -/

/-- The kinds of facade call that have a virtual type. -/
inductive CallKind where
  | mockConstruction
  | verification
  | stub
  deriving DecidableEq, Repr

namespace CallKind

/-- The signatures of the calls that construct a mock. -/
def mockSignatures : List String :=
  ["#M#C\\Phake.mock", "#M#C\\Phake.partialMock", "#M#C\\Phake.partMock"]

/-- The signatures of the calls that verify a mock. -/
def verificationSignatures : List String := ["#M#C\\Phake.verify", "#M#C\\Phake.verifyStatic"]

/-- The signatures of the calls that configure a stub. -/
def stubSignatures : List String := ["#M#C\\Phake.when", "#M#C\\Phake.whenStatic"]

/-- The kind of facade call a signature belongs to. -/
def ofSignature (signature : String) : Option CallKind :=
  if mockSignatures.contains signature then some mockConstruction
  else if verificationSignatures.contains signature then some verification
  else if stubSignatures.contains signature then some stub
  else none

end CallKind

/-! ### Call sites -/

/-- What is known of one argument. -/
inductive CallSite.Argument where
  | literal (contents : String)
  | typed (types : List String)
  | other
  deriving DecidableEq, Repr

/-- What is known of a call before its type is: signature, arguments, and the chain it is in. -/
structure CallSite where
  signature : String
  arguments : List CallSite.Argument
  chain : ChainState
  deriving DecidableEq, Repr

namespace CallSite

/-- The signature of a static call of `method` on the class `path`. -/
def staticSignature (path method : String) : String := "#M#C" ++ path ++ "." ++ method

/-- The signature of a call of `method` on a receiver with the given candidate types. -/
def memberSignature (receiver : List String) (method : String) : String :=
  "#M#" ++ "|".intercalate receiver ++ "." ++ method

/-- The candidate types a verification or stub passes on: those of its first argument, each once,
or nothing when there are none. -/
def passedTypes (site : CallSite) : Option (List String) :=
  match site.arguments with
  | .typed types :: _ =>
    match (types.filter (fun t => t != "")).eraseDups with
    | [] => none
    | union => some union
  | _ => none

/-- The virtual type of a call.  A mock needs a non-empty literal as its first argument, a
verification or stub an argument with candidate types, and any other call a stub chain to be in. -/
def virtualType (site : CallSite) : Option VirtualType :=
  match CallKind.ofSignature site.signature with
  | some .mockConstruction =>
    match site.arguments with
    | .literal contents :: _ =>
      if contents == "" then none else some (.mock site.signature contents)
    | _ => none
  | some .verification => site.passedTypes.map .verification
  | some .stub => site.passedTypes.map .stub
  | none =>
    if Text.startsWith "#M#" site.signature && site.chain == .inStubChain then some .stubbedMethod
    else none

/-- The key of a call that has a virtual type. -/
def key (site : CallSite) : Option String := site.virtualType.map VirtualType.toKey

end CallSite

end MockLens
