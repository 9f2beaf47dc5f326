/-!
# Errors of the operating system
-/

namespace FigureScript

inductive OsError where
  | notFound
  /-- A device that there is none of. -/
  | noDevice
  | permissionDenied
  | badFormat
  | notDirectory
  | isDirectory
  /-- A program whose file is open for writing. -/
  | textBusy
  | noSpace
  | nameTooLong
  | tooManyLinks
  /-- A name that holds the character that ends names. -/
  | nameEnds
  /-- The same in an argument of a program. -/
  | argumentEnds
  /-- A text was wanted and the bytes are none. -/
  | notText
  deriving DecidableEq, Repr

/-- The text of an error with its number; the last three come from the program itself and have
none. -/
def OsError.message : OsError → String
  | notFound => "No such file or directory (os error 2)"
  | noDevice => "No such device or address (os error 6)"
  | badFormat => "Exec format error (os error 8)"
  | permissionDenied => "Permission denied (os error 13)"
  | notDirectory => "Not a directory (os error 20)"
  | isDirectory => "Is a directory (os error 21)"
  | textBusy => "Text file busy (os error 26)"
  | noSpace => "No space left on device (os error 28)"
  | nameTooLong => "File name too long (os error 36)"
  | tooManyLinks => "Too many levels of symbolic links (os error 40)"
  | nameEnds => "file name contained an unexpected NUL byte"
  | argumentEnds => "nul byte found in provided data"
  | notText => "stream did not contain valid UTF-8"

end FigureScript
