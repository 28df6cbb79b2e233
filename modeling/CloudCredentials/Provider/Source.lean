import CloudCredentials.Provider.Standard
import CloudCredentials.Provider.Tree
import CloudCredentials.Provider.WebIdentity

/-!
# Sources of credentials

The sources that a provider can be: fixed keys (`StaticCredentialsProvider`), the instance metadata,
a named profile, web identity federation, and the SDK's standard lookup. A scripted source stands
for any other one: it answers with the outcomes it was given.
-/

namespace CloudCredentials

/-! ### Sources -/

/-- What a scripted source hands out: keys, when they expire, and a name. -/
structure ScriptedAnswer where
  keys : Keys
  expiry : Option Expiry := none
  provider : Option String := none

inductive Source
  | fixed (keys : Keys)
  | instanceProfile (state : Backed Unit Lease)
  | profile (state : Backed NamedProfile Keys)
  | webIdentity (state : Backed WebIdentity AssumedRole) (refresher : Refresher)
  | standard (state : Backed ActiveProfile StandardKeys)
  | scripted (name : String) (answers : Script (Except Failure ScriptedAnswer))

namespace Source

def fixedName : String := "StaticCredentialsProvider"

def name : Source → String
  | .fixed _ => fixedName
  | .instanceProfile _ => InstanceProfile.name
  | .profile _ => NamedProfile.name
  | .webIdentity .. => WebIdentity.name
  | .standard _ => Standard.name
  | .scripted name _ => name

def kindName : Source → String
  | .scripted .. => "Scripted"
  | s => s.name

def shown : Source → String
  | .fixed keys => fixedName ++ "(access_key_id=" ++ keys.accessKey.literal ++ ")"
  | .instanceProfile _ => InstanceProfile.shown
  | .profile state => state.parameters.shown
  | .webIdentity state _ => state.parameters.shown
  | .standard _ => Standard.shown
  | .scripted name _ => name ++ "()"

/-! ### Making sources -/

/-- The source of fixed keys; both keys of the pair must have content. -/
def ofKeys (keys : Keys) : Except Failure Source :=
  if keys.isComplete then .ok (.fixed keys) else .error (.refused .noKeys)

def ofInstance : Source := .instanceProfile ⟨(), none⟩

def ofProfile (home : Option String) (profile : String) (file : Option FileName) :
    Except Failure Source :=
  (NamedProfile.make home profile file).map fun p => .profile ⟨p, none⟩

def ofWebIdentity (parameters : WebIdentity) (interval : Int) : Source :=
  .webIdentity ⟨parameters, none⟩ (.start parameters.asyncUpdate interval)

def ofStandard (profile : Option String) : Source := .standard ⟨{ name := profile }, none⟩

/-! ### Asking -/

def scriptedCredentials (answer : ScriptedAnswer) (now : Int) : Credentials :=
  ⟨answer.keys, answer.expiry.map (·.timeAt now), answer.provider⟩

def ask : Source → World → Except Failure Credentials × Source × World
  | .fixed keys, w => (.ok ⟨keys, none, some fixedName⟩, .fixed keys, w)
  | .instanceProfile state, w =>
    let (answer, state, w) :=
      state.ask InstanceProfile.backing InstanceProfile.name InstanceProfile.shown w
    (answer, .instanceProfile state, w)
  | .profile state, w =>
    let (answer, state, w) :=
      state.ask NamedProfile.backing NamedProfile.name state.parameters.shown w
    (answer, .profile state, w)
  | .webIdentity state refresher, w =>
    let (answer, state, w) := state.ask (WebIdentity.backing state.parameters.client)
      WebIdentity.name state.parameters.shown w
    (answer, .webIdentity state refresher, w)
  | .standard state, w =>
    let (answer, state, w) := state.ask Standard.backing Standard.name Standard.shown w
    (answer, .standard state, w)
  | .scripted name answers, w =>
    let (answer, rest) := Script.next (.ok ⟨⟨.absent, .absent, .absent⟩, none, none⟩) answers
    (answer.map (scriptedCredentials · w.clock), .scripted name rest, w.call (.resolve name))

theorem ask_name (s : Source) (w : World) : (s.ask w).2.1.name = s.name := by
  cases s <;> rfl

/-- Close a source: its background task stops. -/
def close : Source → World → Source × World
  | .webIdentity state refresher, w => (.webIdentity state refresher.stop, w)
  | .scripted name answers, w => (.scripted name answers, w.call (.close name))
  | s, w => (s, w)

/-- Sources as they are asked in a tree. -/
def behaviour : Behaviour Source := ⟨name, shown, ask⟩

end Source

/-! ### Providers -/

/-- A provider: a source or a chain of providers. -/
abbrev Provider := Tree Source

namespace Provider

def name (p : Provider) : String := Tree.name Source.behaviour p

def kindName : Provider → String
  | .leaf source => source.kindName
  | .chain _ => Failure.chainName

def shown (p : Provider) : String := Tree.shown Source.behaviour p

def describe (p : Provider) : List String := Tree.lines Source.behaviour 0 p

def resolve (p : Provider) (w : World) : Except Failure Credentials × Provider × World :=
  Tree.ask Source.behaviour p w

/-- Close a provider: all its sources are closed. -/
def close (p : Provider) (w : World) : Provider × World := Tree.mapLeaves Source.close p w

/-- Use a provider and close it in the end, whatever the use comes to. -/
def within {α : Type} (use : Provider → World → α × Provider × World) (p : Provider) (w : World) :
    α × Provider × World :=
  let (answer, p, w) := use p w
  let (p, w) := p.close w
  (answer, p, w)

end Provider

end CloudCredentials
