set_option autoImplicit false

namespace HtmlTemplate.Files

inductive Fault where
  | notFound
  | alreadyExists
  | notADirectory
  | isADirectory
  | nameTooLong
  | tooManyLinks
  | nulInName
  | notText
  | other (reason : String)
deriving DecidableEq, Repr

def Fault.message : Fault → String
  | .notFound => "No such file or directory (os error 2)"
  | .alreadyExists => "File exists (os error 17)"
  | .notADirectory => "Not a directory (os error 20)"
  | .isADirectory => "Is a directory (os error 21)"
  | .nameTooLong => "File name too long (os error 36)"
  | .tooManyLinks => "Too many levels of symbolic links (os error 40)"
  | .nulInName => "file name contained an unexpected NUL byte"
  | .notText => "stream did not contain valid UTF-8"
  | .other reason => reason

end HtmlTemplate.Files
