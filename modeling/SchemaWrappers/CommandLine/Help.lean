import SchemaWrappers.CommandLine.Request

namespace SchemaWrappers.CommandLine

def lines (ls : List String) : String := String.join (ls.map (· ++ "\n"))

namespace Level

def usageLines : Level → List String
  | program => [
    "usage: buildergen [-h] [-v] [-q] [--log-file LOG_FILE] \x7bgenerate\x7d ..."]
  | generate => [
    "usage: buildergen generate [-h] [-v] [-q] [--log-file LOG_FILE]",
    "                           [--config CONFIG] [--output OUTPUT]"]

def usage (l : Level) : String := lines l.usageLines

def logLines : List String := [
    "logging:",
    "  -v, --verbose        Show debug output, including discovery counts.",
    "  -q, --quiet          Only report warnings and errors.",
    "  --log-file LOG_FILE  Also write a debug log to this file."]

def bodyLines : Level → List String
  | program => [
    "",
    "Generate wrapper functions for schema builder classes from their type",
    "declarations.",
    "",
    "positional arguments:",
    "  \x7bgenerate\x7d",
    "    generate           Generate the builder module from the configured",
    "                       declaration files.",
    "",
    "options:",
    "  -h, --help           show this help message and exit",
    ""]
  | generate => [
    "",
    "options:",
    "  -h, --help           show this help message and exit",
    "  --config CONFIG      Path to .buildergen.yml or the directory holding it",
    "                       (defaults to current directory).",
    "  --output OUTPUT      Write the generated module here instead of the",
    "                       configured output path.",
    ""]

def helpText (l : Level) : String := lines (l.usageLines ++ l.bodyLines ++ logLines)

/-- What is said to a call that is no good. -/
def complaintText (l : Level) (c : Complaint) : String :=
  l.usage ++ s!"{l.name}: error: {c.message}\n"

end Level
end SchemaWrappers.CommandLine
