import ClusterDeploy.CommandLine.Parameter
/-!
# Reading command lines

Arguments are read from the left. A value that follows its parameter as an argument of its own is
only looked at when the next parameter, or the end, is reached, so that an unknown argument in
between is reported first. What follows the verb is read before anything else about the program's
own part is reported.
-/
namespace ClusterDeploy.CommandLine

inductive Word where
  | separator
  | long (name : String) (value : Option String)
  | letters (cs : List Char)
  | plain
  deriving DecidableEq, Repr

def Word.ofText (text : String) : Word :=
  match text.toList with
  | ['-', '-'] => separator
  | '-' :: '-' :: cs =>
    let name := String.ofList (cs.takeWhile (· != '='))
    match cs.dropWhile (· != '=') with
    | _ :: value => long name (some (String.ofList value))
    | [] => long name none
  | '-' :: c :: cs => letters (c :: cs)
  | _ => plain

structure Reading where
  given : List (Parameter × String) := []
  /-- The last parameter, while its value is not looked at, and the value once it was read. -/
  pending : Option (Parameter × Option String) := none
  /-- No parameters are expected any more. -/
  trailing : Bool := false
  deriving DecidableEq, Repr

namespace Reading

def accept (r : Reading) (p : Parameter) (value : String) : Except Halt Reading :=
  if r.given.any fun g => g.1 == p then .error (.usage .givenTwice)
  else if p.refuses value then .error (.usage .invalidValue)
  else .ok { r with given := r.given ++ [(p, value)] }

def settle (r : Reading) : Except Halt Reading :=
  match r.pending with
  | none => .ok r
  | some (_, none) => .error (.usage .invalidValue)
  | some (p, some value) => { r with pending := none }.accept p value

/-- A parameter without a value beside it: it is complete, or the next argument is its value. -/
def bare (r : Reading) (p : Parameter) : Except Halt Reading := do
  let r ← r.settle
  match p.sort with
  | .switch => r.accept p ""
  | .halt h => .error h
  | .text | .path => .ok { r with pending := some (p, none) }

def attached (r : Reading) (p : Parameter) (value : String) : Except Halt Reading := do
  (← r.settle).accept p value

end Reading

def takesValue (p : Parameter) : Bool := p.sort == .text || p.sort == .path

namespace Level

def readLong (l : Level) (r : Reading) (name : String) (value : Option String) :
    Except Halt Reading :=
  match l.named? name, value with
  | none, _ => .error (.usage .unknownArgument)
  | some p, none => r.bare p
  | some p, some value =>
    if takesValue p then r.attached p value else .error (.usage .unwantedValue)

/-- Letters behind one dash. Those behind a letter that takes a value are the value, and an equals
sign may stand between the two. -/
def readLetters (l : Level) (r : Reading) : List Char → Except Halt Reading
  | [] => .ok r
  | c :: cs =>
    match l.lettered? c with
    | none => .error (.usage .unknownArgument)
    | some p =>
      if takesValue p then
        match cs with
        | [] => r.bare p
        | '=' :: value => r.attached p (String.ofList value)
        | value => r.attached p (String.ofList value)
      else do l.readLetters (← r.bare p) cs

def helpName : String := "help"

def helpOn : List String → Halt
  | [] => .help
  | [name] =>
    if (Verb.ofName? name).isSome || name == helpName then .help else .usage .unknownVerb
  | _ => .usage .unknownVerb

def stray (l : Level) (r : Reading) (text : String) : Halt :=
  match l with
  | program =>
    if r.trailing && ((Verb.ofName? text).isSome || text == helpName) then .usage .unknownArgument
    else .usage .unknownVerb
  | verb _ => .usage .unknownArgument

def read (l : Level) (r : Reading) :
    List String → Except Halt (Reading × Option (Verb × List String))
  | [] => .ok (r, none)
  | text :: rest =>
    if r.trailing then .error (l.stray r text)
    else
      match Word.ofText text, r.pending with
      | .separator, _ => l.read { r with trailing := true } rest
      | .long name value, _ => do l.read (← l.readLong r name value) rest
      | .letters cs, _ => do l.read (← l.readLetters r cs) rest
      | .plain, some (p, none) => l.read { r with pending := some (p, some text) } rest
      | .plain, _ =>
        match l, Verb.ofName? text with
        | program, some v => .ok (r, some (v, rest))
        | program, none => .error (if text == helpName then helpOn rest else l.stray r text)
        | verb _, _ => .error (l.stray r text)

end Level

inductive Origin where
  | default
  | environment
  | arguments
  deriving DecidableEq, Repr

def Origin.rank : Origin → Nat
  | default => 0
  | environment => 1
  | arguments => 2

structure Value where
  text : String
  origin : Origin
  deriving DecidableEq, Repr

def Reading.value? (r : Reading) (lookup : String → Option String) (p : Parameter) : Option Value :=
  match r.given.find? fun g => g.1 == p, p.standIn?.bind lookup with
  | some (_, text), _ => some ⟨text, .arguments⟩
  | none, some text => some ⟨text, .environment⟩
  | none, none => p.default?.map fun text => ⟨text, .default⟩

/-- Ends a level: no value is left pending, and none from the environment is refused. -/
def Reading.close (r : Reading) (l : Level) (lookup : String → Option String) :
    Except Halt Reading := do
  let r ← r.settle
  if l.parameters.any fun p => (r.value? lookup p).any fun v => p.refuses v.text then
    .error (.usage .invalidValue)
  else .ok r

/-- The value that counts: the one behind the verb, unless the other has a higher rank. -/
def Value.choose : (before behind : Option Value) → Option Value
  | some b, some v => some (if v.origin.rank < b.origin.rank then b else v)
  | none, v => v
  | b, none => b

def Reading.need (r : Reading) (p : Parameter) : Except Halt String :=
  match r.given.find? fun g => g.1 == p with
  | some (_, text) => .ok text
  | none => .error (.usage .missingParameter)

def Reading.job (r : Reading) (lookup : String → Option String) : Verb → Except Halt Job
  | .deploy => do
    return .deploy {
      image := ← r.need .image
      remoteImage := (r.value? lookup .remoteImage).map Value.text }
  | .endpoints => .ok .endpoints
  | .context => .ok .context

def Reading.withoutVerb (r : Reading) (lookup : String → Option String) : Halt :=
  let given := Parameter.shared.any fun p =>
    (r.value? lookup p).any fun v => v.origin != .default
  .usage (if given then .missingVerb else .nothingGiven)

/-- Reads the arguments of the program; `lookup` is the environment. -/
def parse (lookup : String → Option String) (args : List String) : Except Halt CommandLine := do
  match ← Level.program.read {} args with
  | (before, none) => .error ((← before.close .program lookup).withoutVerb lookup)
  | (before, some (v, rest)) =>
    let (behind, _) ← (Level.verb v).read {} rest
    let behind ← behind.close (.verb v) lookup
    let service ← behind.need .service
    let job ← behind.job lookup v
    let before ← before.close .program lookup
    let shared (p : Parameter) : Option String :=
      (Value.choose (before.value? lookup p) (behind.value? lookup p)).map Value.text
    return {
      envFile := (shared .envFile).getD ""
      subscription := shared .subscription
      resourceGroup := shared .resourceGroup
      cluster := shared .cluster
      settings := shared .settings
      verbose := (shared .verbose).isSome
      service, job }

end ClusterDeploy.CommandLine
