import JsonReference.Download.Host

namespace JsonReference

structure Authority where
  user : Text
  host : Text
  socket : Option Text

namespace Authority

def cutHost (bracketed : Bool) : Text → Text × Option Text
  | [] => ([], none)
  | c :: rest =>
      if c = ':' ∧ !bracketed then ([], some rest)
      else
        let (host, socket) := cutHost (if c = '[' then true else bracketed && c ≠ ']') rest
        (c :: host, socket)

def ofText (t : Text) : Authority :=
  let (user, rest) := match Text.cutLast? '@' t with
    | some (front, back) => (front.dropLast, back)
    | none => ([], t)
  let (host, socket) := cutHost false rest
  ⟨user, host, socket⟩

/-- Whether a user or a password is there. A colon between the two does not count. -/
def namesUser (a : Authority) : Bool := !a.user.isEmpty && a.user ≠ [':']

def checkSocket (digits : Text) : Except UrlFault Unit :=
  if digits.all Char.isDigit && digits.foldl (fun n c => 10 * n + Text.hexValue c) 0 < 65536 then
    .ok ()
  else .error .invalidSocket

def findHost (special : Bool) (a : Authority) : Except UrlFault Host := do
  let host ← if special then Host.parse a.host else Host.parseOpaque a.host
  if host = .absent ∧ (a.socket.isSome ∨ a.namesUser) then .error .emptyHost
  else
    checkSocket (a.socket.getD [])
    return host

end Authority
end JsonReference
