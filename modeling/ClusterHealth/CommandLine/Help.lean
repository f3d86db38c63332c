import ClusterHealth.CommandLine.Arguments

/-! What the command line says about itself. -/
namespace ClusterHealth.CommandLine

def programName : String := "cmsdev"

def versionText : String := programName ++ " 0.1.0"

def Level.help : Level → String
  | .top => "\n".intercalate [
    "cmsdev - health checks for cluster management services",
    "",
    "Usage: cmsdev [OPTIONS] <COMMAND>",
    "",
    "Commands:",
    "  test      Check one or more services",
    "  services  List the services that can be checked",
    "  help      Print this message or the help of the given subcommand(s)",
    "",
    "Options:",
    "  -c, --config <PATH>  Extra config file, merged over cmsdev.yaml",
    "  -j, --json           Output in JSON format",
    "  -h, --help           Print help",
    "  -V, --version        Print version"]
  | .test => "\n".intercalate [
    "Check one or more services",
    "",
    "Usage: cmsdev test [OPTIONS] <SERVICES>...",
    "",
    "Arguments:",
    s!"  <SERVICES>...  Services to check, in order ({ServiceKey.names ServiceKey.all})",
    "",
    "Options:",
    "  -c, --config <PATH>   Extra config file, merged over cmsdev.yaml",
    "      --include-cli     Also exercise the service CLI where a check has one (cfs, ims)",
    "  -j, --json            Output in JSON format",
    "      --no-retry        Run each check once instead of retrying until the timeout",
    "      --timeout <SECS>  Retry timeout in seconds, replacing every configured timeout",
    "  -h, --help            Print help"]
  | .services => "\n".intercalate [
    "List the services that can be checked",
    "",
    "Usage: cmsdev services [OPTIONS]",
    "",
    "Options:",
    "  -c, --config <PATH>  Extra config file, merged over cmsdev.yaml",
    "  -j, --json           Output in JSON format",
    "  -h, --help           Print help"]

/-- What is wrong with the arguments, if anything is. -/
def Refusal.complaint? : Refusal → Option String
  | .displayHelp _ | .displayHelpOnMissingCommand | .displayVersion => none
  | .unknownArgument => some "unexpected argument found"
  | .invalidCommand => some "unrecognized subcommand"
  | .missingCommand => some "'cmsdev' requires a subcommand but one was not provided"
  | .missingRequiredArgument => some "a required argument was not provided: <SERVICES>"
  | .argumentConflict => some "an argument cannot be used multiple times"
  | .invalidValue => some "a value is required for an argument but none was supplied"
  | .valueValidation => some "invalid value for an argument"
  | .tooManyValues => some "unexpected value for an argument"

end ClusterHealth.CommandLine
