import JsonReference.Bundled
import JsonReference.Download.FileUrl
import JsonReference.Download.Http
import JsonReference.Reference

namespace JsonReference

structure Downloader where
  name : Text
  fetch : Reference → Except DownloadError Octets

namespace Downloader

def fileLocation (r : Reference) : Except UrlFault Octets :=
  FileUrl.path (r.uri.scheme.getD []) r.uri.specificPart

def fetchFile (files : FileReader) (r : Reference) : Except DownloadError Octets :=
  match fileLocation r with
  | .error fault => .error (.invalidLocation r.text fault.message)
  | .ok path =>
      match files path with
      | .ok content => .ok content
      | .error .missing => .error (.notFound (Utf8.lossy path))
      | .error fault => .error (.file fault)

def file (files : FileReader) : Downloader := ⟨"file".toList, fetchFile files⟩

abbrev Resources := Table Text Text

def Resources.bundled : Resources := BundledSchema.all.map fun s => (s.path, s.text)

def fetchResource (resources : Resources) (r : Reference) : Except DownloadError Octets :=
  match resources.find? r.uri.path with
  | some text => .ok (Text.octets text)
  | none => .error (.notFound r.locator)

def resource (resources : Resources) : Downloader := ⟨"resource".toList, fetchResource resources⟩

/-- No connection is ever made here, so no request comes through. -/
def http (_ : Http) : Downloader := ⟨"http".toList, fun _ => .error .transport⟩

end Downloader
end JsonReference
