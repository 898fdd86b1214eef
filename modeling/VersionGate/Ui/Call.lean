namespace VersionGate.Ui

inductive Channel where
  | message
  | detail
  | success
  | warning
  | error
  | failure
  | data
deriving DecidableEq

structure Call where
  channel : Channel
  text : String
deriving DecidableEq

end VersionGate.Ui
