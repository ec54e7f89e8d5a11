import ServiceHost.Config.Schema
import ServiceHost.Text.Quoted

/-! How an HTTP server is set up. -/

namespace ServiceHost.Http

structure ServerOptions where
  name : String
  address : String
  requestTimeout : Duration
  maxBodyBytes : Nat
deriving DecidableEq

namespace ServerOptions

def new (address : String) : ServerOptions :=
  let defaults : Config.Server := {}
  { name := "http-server", address
    requestTimeout := .ofSecs defaults.requestTimeoutSecs
    maxBodyBytes := defaults.maxBodyBytes }

def ofConfig (c : Config.Server) : ServerOptions :=
  { new c.bindAddress with
    requestTimeout := .ofSecs c.requestTimeoutSecs, maxBodyBytes := c.maxBodyBytes }

def debug (o : ServerOptions) : String :=
  "HttpServerOptions \x7b name: " ++ Text.quoted o.name ++ ", address: " ++ Text.quoted o.address ++
    ", request_timeout: " ++ o.requestTimeout.text ++
    ", max_body_bytes: " ++ toString o.maxBodyBytes ++ " \x7d"

end ServerOptions

end ServiceHost.Http
