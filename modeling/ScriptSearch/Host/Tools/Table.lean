import ScriptSearch.Host.Signal
import ScriptSearch.Host.Tools.Accounts
import ScriptSearch.Host.Tools.Changing
import ScriptSearch.Host.Tools.Characters
import ScriptSearch.Host.Tools.Columns
import ScriptSearch.Host.Tools.Copying
import ScriptSearch.Host.Tools.Digests
import ScriptSearch.Host.Tools.Editor.Run
import ScriptSearch.Host.Tools.Expression
import ScriptSearch.Host.Tools.Fields
import ScriptSearch.Host.Tools.Finder.Run
import ScriptSearch.Host.Tools.Listing
import ScriptSearch.Host.Tools.Names
import ScriptSearch.Host.Tools.Ordering
import ScriptSearch.Host.Tools.Records.Run
import ScriptSearch.Host.Tools.Searching
import ScriptSearch.Host.Tools.Sequences
import ScriptSearch.Host.Tools.Simple
import ScriptSearch.Host.Tools.Starters
import ScriptSearch.Host.Tools.Transfer

/-! The tools by name. -/

namespace ScriptSearch.Host.Tools

/-- What tools do. -/
def table : List (String × Work Unit) :=
  [("[", test), ("arch", machineName), ("awk", Records.work), ("b2sum", blake2bDigests),
    ("basename", baseNames), ("cat", concatenate), ("chmod", changeModes), ("cksum", checksums),
    ("comm", commonLines), ("cp", copyFiles), ("cut", cutLines), ("dir", listFiles "C" "escape"),
    ("dirname", directoryNames), ("echo", echo), ("egrep", searchLines "-E"), ("env", environment),
    ("expand", expandTabs), ("expr", expression), ("false", Work.setStatus 1),
    ("fgrep", searchLines "-F"), ("find", Finder.find), ("flock", withLock), ("fold", foldLines),
    ("grep", searchLines ""), ("groups", groups), ("head", beginnings), ("id", identities),
    ("install", installFiles), ("join", joinLines), ("link", linkFile), ("ln", makeLinks),
    ("logname", loginName), ("ls", listFiles "1" "literal"), ("mawk", Records.work),
    ("md5sum", digests .md5), ("mkdir", makeDirectories), ("mktemp", makeTemporary),
    ("mv", moveFiles), ("nice", withPriority), ("nl", numberLines), ("nohup", withoutTerminal),
    ("paste", pasteLines), ("printenv", printVariables), ("printf", printf),
    ("pwd", workingDirectory), ("readlink", readLinks), ("realpath", realPaths),
    ("rev", reverseCharacters), ("rgrep", searchLines "-r"), ("rm", removeFiles),
    ("rmdir", removeDirectories), ("sed", Editor.edit), ("seq", sequence),
    ("setsid", inOwnSession), ("sha1sum", digests .sha1), ("sha224sum", digests .sha224),
    ("sha256sum", digests .sha256), ("sha384sum", digests .sha384), ("sha512sum", digests .sha512),
    ("sleep", sleep), ("sort", sortLines), ("stat", describeFiles), ("stdbuf", withBuffering),
    ("sum", blockSums), ("tac", reverseLines), ("tail", endings), ("tee", tee), ("test", test),
    ("timeout", withTimeLimit isTime microseconds (Signal.ofString? true)), ("touch", touchFiles), ("tr", transform),
    ("true", pure ()), ("truncate", truncateFiles), ("tsort", orderTopologically),
    ("tty", terminalName), ("uname", systemName), ("unexpand", unexpandTabs),
    ("uniq", uniqueLines), ("unlink", unlinkFile), ("users", loggedUsers),
    ("vdir", listFiles "l" "escape"), ("wc", wordCounts), ("whoami", ownName),
    ("xargs", feedArguments), ("yes", endlessly)]

end ScriptSearch.Host.Tools
