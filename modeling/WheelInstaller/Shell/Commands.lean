import WheelInstaller.Shell.Builtins
import WheelInstaller.Shell.Names
import WheelInstaller.Shell.Jobs
import WheelInstaller.Utility.Condition
import WheelInstaller.Utility.Printing

/-! The commands of the shell that run no other command. -/

namespace WheelInstaller.Shell

open Process Running
open Utility (Outcome)

def present (outcome : Outcome) : Running Nat := do
  Running.each complain outcome.complaints
  print outcome.output
  return outcome.status

def runFormat (arguments : List Raw) : Running Nat := do
  match ← withoutLetters arguments with
  | format :: rest => present (Utility.Printing.printFormat .shell format rest)
  | [] => fail "usage: printf format [arg ...]".toList

/-- What is known about the files that words name. -/
def lookUp : List Raw → (found : List (Raw × Bool × Status)) →
    Running (List (Raw × Bool × Status))
  | [], found => return found
  | word :: rest, found => do
    let note (follow : Bool) (found : List (Raw × Bool × Status)) :
        Running (List (Raw × Bool × Status)) := do
      match ← ask (.status ⟨Raw.toString word⟩ follow) with
      | .ok status => return (word, follow, status) :: found
      | .error _ => return found
    lookUp rest (← note false (← note true found))

def runTest (words : List Raw) : Running Nat := do
  let found ← if Utility.Condition.concernsFiles words then lookUp words [] else pure []
  let verdict := Utility.Condition.shell (Utility.Condition.ofList found) forever words
  match verdict with
  | .error complaint => fail complaint
  | .ok _ => return Utility.Condition.statusOf verdict

/-- `[`, which is `test` up to a word that starts with a closing bracket. -/
def runBracket (words : List Raw) : Running Nat := do
  if words.getLast?.bind List.head? = some ']' then runTest words.dropLast else fail "missing ]".toList

def runExit (arguments : List Raw) : Running Nat := do
  match arguments with
  | [] => leave .exit
  | text :: _ =>
    let status ← number text
    modify fun state => { state with savedStatus := some status }
    leave .exit

def runReturn (arguments : List Raw) : Running Nat := do
  let status ← match arguments with
    | [] => do pure (← get).status
    | text :: _ => number text
  modify fun state => { state with skip := .back (!arguments.isEmpty) }
  return status

/-- `break` or `continue`. -/
def runSkip (skip : Nat → Skip) (arguments : List Raw) : Running Nat := do
  let count ← match arguments with
    | [] => pure 1
    | text :: _ => number text
  if count = 0 then illegalNumber (arguments.headD [])
  let count := min count (← get).loops
  if count ≠ 0 then modify fun state => { state with skip := skip count }
  return 0

def runTimes : Running Nat := do
  let line := "0m0.000000s 0m0.000000s\n".toList
  print (line ++ line)
  return 0

/-- The resources that `ulimit` knows, with their letters and how much of them there is. -/
def resources : List (Char × String × String) := [
  ('t', "time(seconds)", "unlimited"),
  ('f', "file(blocks)", "unlimited"),
  ('d', "data(kbytes)", "unlimited"),
  ('s', "stack(kbytes)", "8192"),
  ('c', "coredump(blocks)", "unlimited"),
  ('m', "memory(kbytes)", "unlimited"),
  ('l', "locked memory(kbytes)", "8192"),
  ('p', "process", "unlimited"),
  ('n', "nofiles", "1048576"),
  ('v', "vmemory(kbytes)", "unlimited"),
  ('w', "locks", "unlimited"),
  ('r', "rtprio", "0")]

def runLimit (arguments : List Raw) : Running Nat := do
  let (letters, rest) ← takeLetters (plainLetters "HSatfdscmlpnvwr") arguments
  let has (letter : Char) : Bool := letters.any (·.1 = letter)
  let isChoice (letter : Char) : Bool := letter ≠ 'H' && letter ≠ 'S'
  let chosen := ((letters.filter fun (letter, _) => isChoice letter).getLast?).elim 'f' (·.1)
  let change (isHard : Bool) (value : Raw) (state : State) : State :=
    { state with
      bounds := ((chosen, isHard), value) :: state.bounds.filter (·.1 ≠ (chosen, isHard)) }
  match rest with
  | _ :: _ :: _ => fail "too many arguments".toList
  | [value] =>
    let isNumber := value.all Char.isDigit
    if chosen = 'a' then fail "too many arguments".toList
    else if value ≠ "unlimited".toList && !isNumber then fail "bad number".toList
    else
      let value := if isNumber then Raw.ofNat (Raw.digitsValue value) else value
      if has 'H' || !has 'S' then modify (change true value)
      if has 'S' || !has 'H' then modify (change false value)
      return 0
  | [] =>
    let bounds := (← get).bounds
    Running.each (fun (letter, name, usual) => do
      let value := ((bounds.find? (·.1 = (letter, has 'H'))).map (·.2)).getD usual.toList
      if chosen = 'a' then
        print (name.toList ++ List.replicate (20 - name.length) ' ' ++ ' ' :: value ++ ['\n'])
      else if chosen = letter then printLine value) resources
    return 0

def command? (name : String) : Option (List Raw → Running Nat) :=
  match name with
  | ":" | "true" => some fun _ => return 0
  | "false" => some fun _ => return 1
  | "[" => some runBracket
  | "alias" => some runAlias
  | "bg" | "fg" => some runControl
  | "break" => some (runSkip .leave)
  | "cd" | "chdir" => some runEnter
  | "command" => some runTell
  | "continue" => some (runSkip .again)
  | "echo" => some fun arguments => do
    print (Utility.Printing.echo .shell arguments)
    return 0
  | "exit" => some runExit
  | "export" => some (runMark true)
  | "getopts" => some runGetopts
  | "hash" => some runHash
  | "jobs" => some runJobs
  | "kill" => some runKill
  | "local" => some runLocal
  | "printf" => some runFormat
  | "pwd" => some runTellDirectory
  | "read" => some runRead
  | "readonly" => some (runMark false)
  | "return" => some runReturn
  | "set" => some runSet
  | "shift" => some runShift
  | "test" => some runTest
  | "times" => some fun _ => runTimes
  | "trap" => some runTrap
  | "type" => some fun arguments => runType arguments 0
  | "ulimit" => some runLimit
  | "umask" => some runMask
  | "unalias" => some runUnalias
  | "unset" => some runUnset
  | "wait" => some runWait
  | _ => none

end WheelInstaller.Shell
