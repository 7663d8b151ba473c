import NamedSignal.Errno
import NamedSignal.Text.Quoted

/-!
Why a look at the processes or a delivery did not succeed. What the host
refused and what could not be delivered are host errors; a numeral that is too
long and a value the host does not take are not, and nothing below the command
line turns one into the other.
-/
namespace NamedSignal

/-- How the host can fail to deliver a signal. -/
inductive DeliveryFault where
  | gone
  | zombie
  | denied
  /-- A failure the host names no reason for. -/
  | unspecified
  /-- The host waited for a number of seconds, written as given. -/
  | timeout (seconds : Text)
  /-- The host refused with an error number of its own. -/
  | refused (errno : Errno)
  /-- The host does not take the number at all. -/
  | unacceptable
  deriving DecidableEq

/-- Why an operation failed. -/
inductive Failure where
  | host (errno : Errno) (path : Option Text)
  | undelivered (pid signal : Int) (errno : Errno) (reason : Text) (cause : Option DeliveryFault)
  | numeralTooLong
  | unacceptable
  /-- A path was asked for, and what was given is none. -/
  | notPath
  deriving DecidableEq

namespace Failure

/-- The class under which the failure is reported. -/
def kind : Failure → String
  | host errno _ => errno.kind
  | undelivered .. => "SignalDeliveryError"
  | numeralTooLong | unacceptable => "ValueError"
  | notPath => "TypeError"

/-- The failure is the host's. -/
def isHostError : Failure → Bool
  | host .. | undelivered .. => true
  | numeralTooLong | unacceptable | notPath => false

/-- Number and sentence, and the path where one was refused. -/
def hostMessage (errno : Errno) (sentence : Text) (path : Option Text) : Text :=
  Text.concat ["[Errno ", Text.ofInt errno.code, "] ", sentence] ++
    match path with
    | some path => Text.concat [": ", path.quoted]
    | none => []

/-- What a delivery that failed is reported as. -/
def deliverySentence (pid signal : Int) (reason : Text) : Text :=
  Text.concat ["Cannot send signal ", Text.ofInt signal, " to PID ", Text.ofInt pid, ": ", reason]

/-- The failure in words. -/
def message : Failure → Text
  | host errno path => hostMessage errno errno.sentence path
  | undelivered pid signal errno reason _ =>
    hostMessage errno (deliverySentence pid signal reason) none
  | numeralTooLong => Text.ofString "numeral too long"
  | unacceptable => Text.ofString "value not acceptable"
  | notPath => Text.ofString "not a path"

/-- The host says that the process has gone. -/
def meansGone : Failure → Bool
  | host errno _ => errno.meansGone
  | _ => false

end Failure

namespace DeliveryFault

/-- What a failed delivery is reported as (`SignalDeliveryError`). A process that is gone
or not to be touched has an errno of its own, any other failure the host names is an
input-output error, and the host's own refusals pass unchanged. -/
def failure (pid signal : Int) (fault : DeliveryFault) : Failure :=
  match fault with
  | gone | zombie =>
    .undelivered pid signal .noSuchProcess (Text.ofString "process no longer exists") (some fault)
  | denied => .undelivered pid signal .notPermitted (Text.ofString "access denied") (some fault)
  | unspecified => .undelivered pid signal .inputOutput [] (some fault)
  | timeout seconds =>
    .undelivered pid signal .inputOutput
      (Text.concat ["timeout after ", seconds, " seconds (pid=", Text.ofInt pid, ")"]) (some fault)
  | refused errno => .host errno none
  | unacceptable => .unacceptable

end DeliveryFault
end NamedSignal
