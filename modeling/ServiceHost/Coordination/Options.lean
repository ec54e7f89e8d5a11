import ServiceHost.Config.Schema
import ServiceHost.Text.Quoted

/-! How a client of the coordination service is set up. Endpoints are dialed in the order in which they
were given. -/

namespace ServiceHost.Coordination

structure ClientOptions where
  name : String := "coordination-client"
  endpoints : List String := []
  dialTimeout : Duration := .ofSecs 5
deriving DecidableEq

namespace ClientOptions

def addEndpoint (o : ClientOptions) (endpoint : String) : ClientOptions :=
  { o with endpoints := o.endpoints ++ [endpoint] }

def addEndpoints (o : ClientOptions) (endpoints : List String) : ClientOptions :=
  { o with endpoints := o.endpoints ++ endpoints }

def ofConfig (c : Config.Coordination) : ClientOptions :=
  { ClientOptions.addEndpoints {} c.endpoints with dialTimeout := .ofSecs c.dialTimeoutSecs }

def debug (o : ClientOptions) : String :=
  "CoordinationOptions \x7b name: " ++ Text.quoted o.name ++
    ", endpoints: " ++ Text.quotedList o.endpoints ++
    ", dial_timeout: " ++ o.dialTimeout.text ++ " \x7d"

end ClientOptions

end ServiceHost.Coordination
