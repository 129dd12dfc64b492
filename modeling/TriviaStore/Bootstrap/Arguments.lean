/-! # Arguments

The command line takes two options: one asks for the demonstration quizzes, the other for help. A
long option may be shortened as long as only one begins like that. Arguments are looked at in
turn, and help ends the program when its turn comes; what cannot be understood is refused at the
end, but a value for an option that takes none at once.
-/

namespace TriviaStore.Bootstrap

/-- What the arguments ask for. -/
inductive Request
  | run (seed : Bool)
  | help
  | refused
  deriving DecidableEq, Repr

/-- What a single argument is. -/
inductive Argument
  | help
  | seed
  | valued
  | ambiguous
  | stop
  | unknown
  deriving DecidableEq, Repr

def longOptions : List (String × Argument) := [("--help", .help), ("--seed", .seed)]

/-- What a long option is, given the text before an equals sign and whether there is one. -/
def Argument.ofLong (name : String) (hasValue : Bool) : Argument :=
  match longOptions.filter fun o => o.1.startsWith name with
  | [] => .unknown
  | [o] => if hasValue then .valued else o.2
  | _ => .ambiguous

/-- What the short option for help is, given what is written right behind it: the option again and
again, a value, or another option, which comes too late. -/
def Argument.ofShort : List Char → Argument
  | [] => .help
  | 'h' :: rest => ofShort rest
  | '=' :: _ => .valued
  | '-' :: _ => .valued
  | _ => .help

def Argument.read (s : String) : Argument :=
  match s.toList with
  | ['-', '-'] => .stop
  | '-' :: '-' :: _ =>
    let name := s.toList.takeWhile (· != '=')
    ofLong (String.ofList name) (name.length != s.length)
  | '-' :: 'h' :: rest => ofShort rest
  | _ => .unknown

/-- Go through arguments, given whether the quizzes were asked for and whether one was unknown. -/
def Request.scan (seed unknown : Bool) : List Argument → Request
  | [] => if unknown then .refused else .run seed
  | .help :: _ => .help
  | .seed :: rest => scan true unknown rest
  | .valued :: _ => .refused
  | .unknown :: rest => scan seed true rest
  | .ambiguous :: _ => .refused
  | .stop :: _ => .refused

/-- What arguments ask for. An ambiguous one is refused before any has its turn. -/
def Request.ofArguments (arguments : List String) : Request :=
  let read := (arguments.map Argument.read).takeWhile (· != .stop)
  if read.contains .ambiguous then .refused
  else scan false (read.length != arguments.length) read

end TriviaStore.Bootstrap
