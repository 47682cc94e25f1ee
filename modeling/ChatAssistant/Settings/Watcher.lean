import ChatAssistant.Channel
import ChatAssistant.Config.Refresh

/-!
# Watching settings

A watcher receives changes of settings and lets the configuration read the keys they affect.  Where it
missed changes, all keys are read.
-/

namespace ChatAssistant.Settings

/-- The change that a delivery makes the configuration read. -/
def Watcher.change : Delivery Change → Change
  | .message change => change
  | .missed _ => .everything

/-- What is reported before the settings are read. -/
def Watcher.notice : Delivery Change → List Log.Event
  | .message _ => []
  | .missed count => [.changesMissed count]

/-- The configuration after one delivery. -/
def Watcher.apply (source : Source) (c : Config) (delivery : Delivery Change) : Config :=
  c.refresh (change delivery) source

/-- The log of one delivery. -/
def Watcher.log (source : Source) (delivery : Delivery Change) : List Log.Event :=
  notice delivery ++ Config.refreshLog (change delivery) source

/-- A watcher that runs until there is nothing left to receive. -/
def Watcher.run (source : Source) (changes : Channel Change) (r : Receiver) (c : Config) :
    Config × Receiver × List Log.Event :=
  let (deliveries, r) := changes.receiveAll r
  (deliveries.foldl (apply source) c, r, deliveries.flatMap (log source))

end ChatAssistant.Settings
