import VersionGate.Log.Event
import VersionGate.Ui.Style

namespace VersionGate.Log

def Level.style : Level → Ui.Style
  | error => ⟨["31"]⟩
  | warn => ⟨["33"]⟩
  | info => ⟨["32"]⟩
  | debug => ⟨["34"]⟩
  | trace => ⟨["35"]⟩

def Level.column (level : Level) : String :=
  String.ofList (List.replicate (5 - level.name.length) ' ') ++ level.name

structure Clock where
  stamp : String
  elapsed : String

def fieldText (styling : Bool) (field : String × String) : String :=
  " " ++ Ui.Style.apply ⟨["3"]⟩ styling field.1 ++ Ui.Style.apply ⟨["2"]⟩ styling "=" ++ field.2

def Event.line (clock : Clock) (styling : Bool) (event : Event) : String :=
  Ui.Style.apply ⟨["2"]⟩ styling clock.stamp ++ " " ++
    event.level.style.apply styling event.level.column ++ " " ++ event.message ++
    String.join ((event.fields clock.elapsed).map (fieldText styling))

end VersionGate.Log
