import WikiMarkup.Text.Digit

/-!
# Faults

The few ways in which converting a page can fail, and what is said then. Some of them are errors of
the operating system, met when a file is looked up.
-/

namespace WikiMarkup

/-- Why the operating system does not tell what is at a path. -/
inductive SystemError where
  | noEntry
  | notDirectory
  | badDescriptor
  | linkLoop
  | nameTooLong
  | accessDenied
  /-- Any other reason, in the words of the system. -/
  | other (words : Text)
deriving DecidableEq, Repr

namespace SystemError

/-- The wording of an error. -/
def message : SystemError → Text
  | noEntry => "No such file or directory".toList
  | notDirectory => "Not a directory".toList
  | badDescriptor => "Bad file descriptor".toList
  | linkLoop => "Too many levels of symbolic links".toList
  | nameTooLong => "File name too long".toList
  | accessDenied => "Permission denied".toList
  | other words => words

/-- Whether an error says no more than that there is nothing at the path. -/
def saysAbsent : SystemError → Bool
  | noEntry | notDirectory | badDescriptor | linkLoop => true
  | nameTooLong | accessDenied | other _ => false

end SystemError

/-- Why a conversion broke off. -/
inductive Fault where
  /-- A number of more digits than are converted. -/
  | numberTooLong (digits : Nat)
  /-- A code mark without saved code. -/
  | unknownMark
  /-- A code mark with a number of more than 63 bits. -/
  | markTooLarge
  /-- A code listing whose language is white space only. -/
  | blankLanguage
  /-- A file that the operating system does not tell about. -/
  | system (error : SystemError)
deriving DecidableEq, Repr

namespace Fault

/-- The most digits that a number may have. -/
def digitLimit : Nat := 4300

/-- The wording of a fault. -/
def message : Fault → Text
  | numberTooLong digits =>
    "Exceeds the limit (".toList ++ Digit.write digitLimit ++
      " digits) for integer string conversion: value has ".toList ++ Digit.write digits ++
      " digits; use sys.set_int_max_str_digits() to increase the limit".toList
  | unknownMark => "list index out of range".toList
  | markTooLarge => "cannot fit 'int' into an index-sized integer".toList
  | blankLanguage => "list index out of range".toList
  | system error => error.message

end Fault
end WikiMarkup
