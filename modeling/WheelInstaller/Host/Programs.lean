import WheelInstaller.Process.Host
import WheelInstaller.Process.Image
import WheelInstaller.Shell.Script
import WheelInstaller.Utility.Sums
import WheelInstaller.Utility.Lines
import WheelInstaller.Utility.Batch
import WheelInstaller.Utility.Calendar
import WheelInstaller.Utility.Columns
import WheelInstaller.Utility.Comparison
import WheelInstaller.Utility.Concatenation
import WheelInstaller.Utility.Contrast
import WheelInstaller.Utility.Copy
import WheelInstaller.Utility.Count
import WheelInstaller.Utility.Directories
import WheelInstaller.Utility.Dump
import WheelInstaller.Utility.Editor
import WheelInstaller.Utility.Excerpt
import WheelInstaller.Utility.Expression
import WheelInstaller.Utility.Touch
import WheelInstaller.Utility.Finding
import WheelInstaller.Utility.Fingerprint
import WheelInstaller.Utility.Surroundings
import WheelInstaller.Utility.Move
import WheelInstaller.Utility.Listing
import WheelInstaller.Utility.Numbering
import WheelInstaller.Utility.Particulars
import WheelInstaller.Utility.Permissions
import WheelInstaller.Utility.Supervision
import WheelInstaller.Utility.Repeats
import WheelInstaller.Utility.Resolution
import WheelInstaller.Utility.Search
import WheelInstaller.Utility.Sequence
import WheelInstaller.Utility.Sort
import WheelInstaller.Utility.Transfer
import WheelInstaller.Utility.Translation

/-! The programs that there are: the shell, under both its names, and the utilities. A host can answer with them, or
with any others. -/

namespace WheelInstaller.Utility

def quiet (status : Nat) (_arguments : List Raw) : Utility Unit :=
  mark status

def all : List (String × (List Raw → Utility Unit)) := [
  ("[", Plain.bracket),
  ("arch", Identity.machine),
  ("base32", Armor.run Armor.code32),
  ("base64", Armor.run Armor.code64),
  ("basename", Naming.last),
  ("cat", Concatenation.run),
  ("chmod", Permissions.run),
  ("cksum", Sums.check),
  ("cmp", Comparison.compareBytes),
  ("comm", Comparison.compareLines),
  ("cp", Copy.run),
  ("cut", Columns.run),
  ("date", Calendar.run),
  ("dd", Transfer.run),
  ("diff", Contrast.run),
  ("dirname", Naming.directory),
  ("echo", Plain.echo),
  ("egrep", Search.runAs .extended),
  ("env", Surroundings.run),
  ("expr", Expression.run),
  ("false", quiet 1),
  ("fgrep", Search.runAs .fixed),
  ("find", Finding.run),
  ("fold", Folding.run),
  ("grep", Search.run),
  ("groups", Identity.groups),
  ("head", Excerpt.head),
  ("id", Identity.identify),
  ("link", Links.linkPlainly),
  ("ln", Links.run),
  ("logname", Identity.logname),
  ("ls", Listing.run),
  ("md5sum", Fingerprint.run .md5),
  ("mkdir", Directories.make),
  ("mktemp", Temporary.run),
  ("mv", Move.run),
  ("nice", Supervision.withPriority),
  ("nl", Numbering.run),
  ("nohup", Supervision.withoutHangup),
  ("od", Dump.run),
  ("paste", Pasting.run),
  ("printenv", Identity.environment),
  ("printf", Plain.format),
  ("pwd", Plain.directory),
  ("readlink", Resolution.readLinks),
  ("realpath", Resolution.showPaths),
  ("rm", Removal.run),
  ("rmdir", Directories.remove),
  ("sed", Editor.run),
  ("seq", Sequence.run),
  ("sha1sum", Fingerprint.run .sha1),
  ("sha224sum", Fingerprint.run .sha224),
  ("sha256sum", Fingerprint.run .sha256),
  ("sha384sum", Fingerprint.run .sha384),
  ("sha512sum", Fingerprint.run .sha512),
  ("sleep", Plain.sleep),
  ("sort", Sort.run),
  ("stat", Particulars.run),
  ("sum", Sums.sum),
  ("tac", Backwards.run),
  ("tail", Excerpt.tail),
  ("tee", Spread.run),
  ("test", Plain.test),
  ("timeout", Supervision.limitTime),
  ("touch", Touch.run),
  ("tr", Translation.run),
  ("true", quiet 0),
  ("truncate", Extent.run),
  ("tty", Identity.terminal),
  ("uname", Identity.system),
  ("uniq", Repeats.run),
  ("unlink", Removal.unlink),
  ("wc", Count.run),
  ("which", Whereabouts.run),
  ("whoami", Identity.whoami),
  ("xargs", Batch.run),
  ("yes", Plain.affirm)]

end WheelInstaller.Utility

namespace WheelInstaller.Host

open Process

def programs : List (String × (Invocation → Activity)) :=
  [("sh", Shell.start), ("dash", Shell.start)] ++
    Utility.all.map fun (name, work) => (name, Utility.start work)

def program? (name : String) : Option (Invocation → Activity) :=
  (programs.find? (·.1 = name)).map (·.2)

/-- The files of a host on which nothing has been done yet. -/
def freshFiles : FileSystem :=
  Process.standardFiles (programs.map (·.1))

/-- The trimmed output of a program, and the files after it. -/
def runProgram (files : FileSystem) (program : String) (arguments : List String) :
    Except CommandError String × FileSystem :=
  match Process.execute files program? program arguments with
  | .error cause => (.error (.notStarted program cause), files)
  | .ok (completed, files) => (completed.text program, files)

end WheelInstaller.Host
