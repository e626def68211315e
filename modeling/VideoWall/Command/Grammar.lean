import VideoWall.Command.Run

/-!
# The grammar of command lines

A command line as a list of options that are given, each under a name that is short for it alone, with
its argument in the same word or in the next one.
-/

namespace VideoWall.Command

/-- A text names an option: it is the start of what that option is written as in full, and of no other
option. -/
def OptionName.IsNamedBy (o : OptionName) (written : String) : Prop :=
  written.toList <+: o.flag.toList ∧ ∀ o' : OptionName, written.toList <+: o'.flag.toList → o' = o

/-- An option that is given, as it is written. -/
inductive Giving where
  | bare (written : String) (name : OptionName)
  /-- With an argument in the same word, behind an equals sign. -/
  | joined (written : String) (name : OptionName) (argument : String)
  /-- With an argument in the next word. -/
  | apart (written : String) (name : OptionName) (argument : String)
deriving DecidableEq, Repr

namespace Giving

def words : Giving → List String
  | bare written _ => [written]
  | joined written _ argument => [written ++ "=" ++ argument]
  | apart written _ argument => [written, argument]

/-- An option is given under a name of its own, and a word that is to be its argument looks like one. -/
def IsSpelled : Giving → Prop
  | bare written name | joined written name _ => name.IsNamedBy written
  | apart written name argument =>
    name.IsNamedBy written ∧ name.takesArgument = true ∧ wordKind argument = .ok .argument

def applied (o : Options) : Giving → Except UsageStop Options
  | bare _ name => o.setFlag name
  | joined _ name argument | apart _ name argument => o.setWith name argument

def level? : Giving → Option String
  | joined _ .logLevel argument | apart _ .logLevel argument => some argument
  | _ => none

end Giving

/-- Words spell options that are given one after the other. -/
def Spells (givings : List Giving) (words : List String) : Prop :=
  (∀ g ∈ givings, g.IsSpelled) ∧ words = givings.flatMap Giving.words

def Giving.appliedAll (o : Options) (givings : List Giving) : Except UsageStop Options :=
  givings.foldlM Giving.applied o

end VideoWall.Command
