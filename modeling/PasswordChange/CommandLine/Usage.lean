/-!
# Texts of the command line

The usage line and the help text.
-/

namespace PasswordChange.CommandLine

/-- The name under which the program reports. -/
def programName : String := "passwd"

/-- How the program is called. -/
def usageLine : String :=
  "usage: passwd [-h] [-l location] [-u authname] [-v] [user]"

/-- The lines of the help text. -/
def helpLines : List String := [
  usageLine,
  "",
  "Change a user's password in the directory service.",
  "",
  "positional arguments:",
  "  user                  user whose password changes (default: invoking user)",
  "",
  "options:",
  "  -h, --help            show this help message and exit",
  "  -l location, --location location",
  "                        directory node to use, e.g. /Local/Default (default:",
  "                        search)",
  "  -u authname, --authname authname",
  "                        user to authenticate as (default: the target user)",
  "  -v, --verbose         verbosity level"]

end PasswordChange.CommandLine
