/-
# Multipage.Media.Extension -- the media type that a path extension names

`known` is the table that the command line hands to the resources, which take any other as well.
It holds the common extensions, and one that it does not hold counts as unknown.  An extension is
looked up in letters of any case, by the Unicode case folding: two further characters fold to one
ASCII letter and nine to several, all else outside ASCII folds to nothing that the table holds.
-/
import Multipage.Text.Basic

namespace Multipage.Extension

set_option autoImplicit false

/-- Characters outside ASCII whose case folding is in ASCII. -/
def asciiFoldings : List (Char × String) :=
  [('\u212A', "k"), ('\u017F', "s"), ('\u00DF', "ss"), ('\u1E9E', "ss"), ('\uFB00', "ff"),
   ('\uFB01', "fi"), ('\uFB02', "fl"), ('\uFB03', "ffi"), ('\uFB04', "ffl"), ('\uFB05', "st"),
   ('\uFB06', "st")]

/-- The case folding of a character, as far as it is in ASCII. -/
def foldChar (c : Char) : Text := (asciiFoldings.lookup c).elim [c.toLower] String.toList

/-- The extensions with a media type. -/
def known : List (String × String) :=
  [("7z", "application/x-7z-compressed"), ("atom", "application/atom+xml"),
   ("bin", "application/octet-stream"), ("c", "text/plain"), ("csh", "application/x-csh"),
   ("css", "text/css"), ("csv", "text/csv"), ("doc", "application/msword"),
   ("gif", "image/gif"), ("gz", "application/gzip"), ("h", "text/plain"),
   ("htm", "text/html"), ("html", "text/html"), ("ico", "image/x-icon"),
   ("ics", "text/calendar"), ("ini", "text/plain"), ("jpeg", "image/jpeg"),
   ("jpg", "image/jpeg"), ("js", "text/javascript"), ("json", "application/json"),
   ("jsonld", "application/ld+json"), ("jsx", "text/javascript"),
   ("kml", "application/vnd.google-earth.kml+xml"), ("log", "text/plain"),
   ("map", "text/plain"), ("md", "text/markdown"), ("mjs", "application/javascript"),
   ("mp3", "audio/mpeg"), ("mp4", "video/mp4"), ("mpeg", "video/mpeg"),
   ("pdf", "application/pdf"), ("png", "image/png"), ("py", "text/plain"),
   ("rs", "text/x-rust"), ("rss", "application/rss+xml"), ("rtf", "application/rtf"),
   ("sh", "application/x-sh"), ("svg", "image/svg+xml"), ("tar", "application/x-tar"),
   ("toml", "text/x-toml"), ("ts", "video/vnd.dlna.mpeg-tts"), ("txt", "text/plain"),
   ("wasm", "application/wasm"), ("wav", "audio/wav"),
   ("webmanifest", "application/manifest+json"), ("webp", "image/webp"),
   ("woff2", "font/woff2"), ("xhtml", "application/xhtml+xml"), ("xml", "text/xml"),
   ("yaml", "text/x-yaml"), ("yml", "text/x-yaml"), ("zip", "application/zip")]

/-- The media type that an extension names. -/
def mediaType? (extension : Text) : Option Text :=
  let folded := extension.flatMap foldChar
  (known.find? fun entry => entry.1.toList == folded).map fun entry => entry.2.toList

end Multipage.Extension
