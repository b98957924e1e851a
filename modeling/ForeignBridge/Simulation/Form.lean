import ForeignBridge.Simulation.Object

/-!
# Forms

A form describes an object to build: a number, a string, a container of other forms, a function
whose body is one of a few ready-made ones.  Both a form and a ready-made body become scripts.  A
container is built after its parts, which are built in order.
-/

namespace ForeignBridge
namespace Simulation

mutual

inductive Form where
  | null
  | int (value : Int)
  | float (x : Double)
  | bool (b : Bool)
  | bytes (octets : List UInt8)
  | text (chars : String)
  | units (codes : List UInt16)
  | tuple (items : List Form)
  | list (items : List Form)
  | bag (entries : List (String × Form))
  | classOf (name : String) (entries : List (String × Form))
  | function (name : String) (body : Body)
  /-- A new reference to an object that exists already. -/
  | existing (designation : Designation)
  | scalar (value : Scalar)
  /-- A list of objects built from one form. -/
  | repeated (count : Nat) (form : Form)
  /-- An object inside a number of one-element tuples. -/
  | nested (depth : Nat) (form : Form)

inductive Body where
  /-- Answers one of the arguments. -/
  | argument (index : Nat)
  /-- Answers a tuple of the arguments. -/
  | arguments
  | argumentCount
  | callCount
  | null
  /-- Fails without raising an error. -/
  | silent
  | raising (diagnostic : Diagnostic)
  | making (form : Form)
  /-- Raises an error and answers an object all the same. -/
  | stray (diagnostic : Diagnostic) (form : Form)
  /-- Answers the name of the kind that the first argument is tagged with. -/
  | kindName
  /-- Sets fields of the first argument to the others, and one more field to a new object. -/
  | initialiser (className : String) (fields : List String) (extra : Option (String × Form))
  | getter (name : String)
  | setter (name : String)
  /-- Answers a bag of the products of the first argument's fields with the second argument. -/
  | scaling (fields : List (String × String))
  | square
  /-- Calls the first argument with the others. -/
  | applying

end

namespace Script

def raising (kind message : String) : Script :=
  .perform (.raise ⟨kind, message⟩) fun _ => .done none

/-- A new reference to an object that is owned already. -/
def returning (ref : Ref) : Script := .perform (.retain ref) fun _ => .done (some ref)

/-- The number that an object is: its float, or its integer as a float, or not a number. -/
def number (ref : Ref) (next : Double → Script) : Script :=
  .perform (.floatOf ref) fun
    | some x => next x
    | none => .perform (.intOf ref) fun
      | some value => next (Binary.ofInt value)
      | none => next .nan

/-- Sets attributes one after another, and goes on whether that succeeds or not. -/
def setAttrs (target : Ref) (next : Script) : List (String × Ref) → Script
  | [] => next
  | (name, value) :: rest =>
    .perform (.request (.setAttr target name value)) fun _ => setAttrs target next rest

/-- Builds the products of own attributes of an object with a factor, and fails if one is
missing. -/
def products (target : Ref) (factor : Double) (next : List (String × Ref) → Script) :
    List (String × String) → Script
  | [] => next []
  | (field, key) :: rest =>
    .perform (.attr target field) fun
      | none => .done none
      | some ref => number ref fun x =>
        .perform (.newFloat (x.mul factor)) fun product =>
          products target factor (fun entries => next ((key, product) :: entries)) rest

def times (build : (Ref → Script) → Script) (next : List Ref → Script) : Nat → Script
  | 0 => next []
  | count + 1 => build fun ref => times build (fun refs => next (ref :: refs)) count

def wrap (next : Ref → Script) : Nat → Ref → Script
  | 0, ref => next ref
  | depth + 1, ref => .perform (.newTuple [ref]) (wrap next depth)

end Script

mutual

/-- Builds the object of a form and goes on with a reference to it. -/
def Form.build (next : Ref → Script) : Form → Script
  | .null => .perform (.request .null) next
  | .int value => .perform (.newInt value) next
  | .float x => .perform (.newFloat x) next
  | .bool b => .perform (.newBool b) next
  | .bytes octets => .perform (.newBytes octets) next
  | .text chars => .perform (.newText chars) next
  | .units codes => .perform (.newUnits codes) next
  | .tuple items => buildAll (fun refs => .perform (.newTuple refs) next) items
  | .list items => buildAll (fun refs => .perform (.newList refs) next) items
  | .bag entries => buildEntries (fun refs => .perform (.newBag refs) next) entries
  | .classOf name entries =>
    buildEntries (fun refs => .perform (.newClass name refs) next) entries
  | .function name body => .newFunction name (fun calls args => body.script name calls args) next
  | .existing designation => .perform (.designated designation) fun
    | some ref => .perform (.retain ref) fun _ => next ref
    | none => .done none
  | .scalar value => .perform (.request (.newScalar value)) fun
    | some ref => next ref
    | none => .done none
  | .repeated count form =>
    Script.times (fun next => form.build next) (fun refs => .perform (.newList refs) next) count
  | .nested depth form => form.build (Script.wrap next depth)

def buildAll (next : List Ref → Script) : List Form → Script
  | [] => next []
  | form :: forms => form.build fun ref => buildAll (fun refs => next (ref :: refs)) forms

def buildEntries (next : List (String × Ref) → Script) : List (String × Form) → Script
  | [] => next []
  | (name, form) :: entries =>
    form.build fun ref => buildEntries (fun refs => next ((name, ref) :: refs)) entries

def Body.script (name : String) (calls : Nat) (args : List Ref) : Body → Script
  | .argument index =>
    match args[index]? with
    | some ref => .returning ref
    | none => .raising "TypeError" (name ++ "() missing arguments")
  | .arguments => .perform (.request (.newTuple args)) .done
  | .argumentCount => .perform (.newInt args.length) fun ref => .done (some ref)
  | .callCount => .perform (.newInt calls) fun ref => .done (some ref)
  | .null => .perform (.request .null) fun ref => .done (some ref)
  | .silent => .done none
  | .raising diagnostic => .raising diagnostic.kind diagnostic.message
  | .making form => form.build fun ref => .done (some ref)
  | .stray diagnostic form =>
    form.build fun ref => .perform (.raise diagnostic) fun _ => .done (some ref)
  | .kindName =>
    match args with
    | [] => .raising "TypeError" (name ++ "() missing arguments")
    | first :: _ => .perform (.scalarKind first) fun kind =>
      .perform (.newText ((kind.map NumericKind.name).getD "none")) fun ref => .done (some ref)
  | .initialiser className fields extra =>
    match args with
    | target :: values =>
      if values.length = fields.length then
        let finish : Script := .perform (.request .null) fun ref => .done (some ref)
        Script.setAttrs target
          (match extra with
            | none => finish
            | some (field, form) => form.build fun ref =>
              .perform (.request (.setAttr target field ref)) fun _ =>
                .perform (.release ref) fun _ => finish)
          (fields.zip values)
      else
        .raising "TypeError" s!"{className}() takes {fields.length} positional arguments"
    | [] => .raising "TypeError" s!"{className}() takes {fields.length} positional arguments"
  | .getter field =>
    match args with
    | [] => .raising "TypeError" (name ++ "() missing arguments")
    | target :: _ => .perform (.request (.getAttr target field)) .done
  | .setter field =>
    match args with
    | target :: value :: _ => .perform (.request (.setAttr target field value)) fun
      | true => .perform (.request .null) fun ref => .done (some ref)
      | false => .done none
    | _ => .raising "TypeError" (name ++ "() missing arguments")
  | .scaling fields =>
    match args with
    | target :: factor :: _ => Script.number factor fun factor =>
      Script.products target factor
        (fun entries => .perform (.newBag entries) fun ref => .done (some ref)) fields
    | _ => .raising "TypeError" (name ++ "() missing arguments")
  | .square =>
    match args with
    | [] => .raising "TypeError" (name ++ "() missing arguments")
    | first :: _ => Script.number first fun x =>
      .perform (.newFloat (x.mul x)) fun ref => .done (some ref)
  | .applying =>
    match args with
    | [] => .raising "TypeError" (name ++ "() missing arguments")
    | callable :: rest => .perform (.request (.newTuple rest)) fun
      | some tuple => .perform (.request (.call callable tuple)) fun outcome =>
        .perform (.release tuple) fun _ => .done outcome
      | none => .done none

end

def Form.script (form : Form) : Script := form.build fun ref => .done (some ref)

def moduleScript (name : String) (entries : List (String × Form)) : Script :=
  buildEntries (fun refs => .perform (.registerModule name refs) fun ref => .done (some ref))
    entries

end Simulation
end ForeignBridge
