import Boilerplate.Config
import Boilerplate.Frame

/-!
# Configuration headers

A configuration turns into a header that defines its symbols for the preprocessor. Symbols that
are false are written as well, in one of two spellings, so that a reader of the header sees
everything that was probed.

## Main definitions

* `Config.digest` — the digest of a host and a configuration
* `Config.header` — the text of the header
-/

namespace Boilerplate.Config

/-- The text whose digest a configuration header shows: the host, and the canonical lines. -/
def digestInput (config : Config) (host : Host) : String :=
  "host=" ++ host.text ++ "\n" ++ config.canonical

/-- The digest of a host and a configuration. -/
def digest (config : Config) (host : Host) : Digest := .ofText (config.digestInput host)

/-- The line of a header for a symbol. -/
def symbolLine (style : Style) (entry : String × Bool) : String :=
  if entry.2 then "#define " ++ entry.1 ++ " 1"
  else
    match style.negatives with
    | .undefined => "/* #undef " ++ entry.1 ++ " */"
    | .zero => "#define " ++ entry.1 ++ " 0"

/-- The name that a configuration header is guarded as. -/
def headerName : String := "config.h"

/-- The comment that names the host. -/
def hostLine (host : Host) : String := "/* Host: " ++ Text.commentText host.text ++ " */"

/-- The lines of a configuration header. -/
def headerLines (config : Config) (host : Host) (style : Style) : List String :=
  Frame.banner ("host " ++ host.text) (config.digest host) style ++
    Frame.guarded (Frame.includeGuard headerName style)
      (hostLine host :: config.entries.map (symbolLine style))

/-- The text of a configuration header. -/
def header (config : Config) (host : Host) (style : Style) : String :=
  Text.unlines (config.headerLines host style)

end Boilerplate.Config
