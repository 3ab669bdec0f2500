import JsonReference.Text.Basic

namespace JsonReference

inductive FileFault where
  | missing
  | notDirectory
  | isDirectory
  | nameTooLong
  | nulByte
  | notText
  | other (message : String)
deriving DecidableEq, Repr

def FileFault.message : FileFault → String
  | .missing => "No such file or directory (os error 2)"
  | .notDirectory => "Not a directory (os error 20)"
  | .isDirectory => "Is a directory (os error 21)"
  | .nameTooLong => "File name too long (os error 36)"
  | .nulByte => "file name contained an unexpected NUL byte"
  | .notText => "stream did not contain valid UTF-8"
  | .other message => message

inductive DownloadError where
  | file (fault : FileFault)
  | transport
  | status (code : Nat)
  | notFound (location : Text)
  | invalidLocation (uri : Text) (reason : String)
  | other (message : Text)
deriving DecidableEq, Repr

namespace DownloadError

def message : DownloadError → String
  | .file fault => "I/O error: " ++ fault.message
  | .transport => "HTTP transport error: request failed"
  | .status code => "HTTP status " ++ toString code
  | .notFound location => "no resource at '" ++ location.str ++ "'"
  | .invalidLocation uri reason =>
      "cannot map '" ++ uri.str ++ "' to a location: " ++ reason
  | .other message => message.str

def causes (e : DownloadError) : List String :=
  match e with
  | .file fault => [e.message, fault.message]
  | _ => [e.message]

end DownloadError
end JsonReference
