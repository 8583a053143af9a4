import FramedRpc.Endpoint.Handler
import FramedRpc.Transport.SocketHost

namespace FramedRpc.Cli

structure Surroundings where
  terminal : Bool
  now : Instant
  input : Except IoError Bytes
  readFile : String → Except IoError Bytes
  -- What the one who listens at a path answers with.
  connect : String → Except TransportError HandlerTable

namespace Surroundings

-- Some files and some who listen, and little else; the clock has been running for a day. What comes in
-- can also be read as a file.
def closed (input : Bytes) (contents : List (String × Bytes)) (services : List (String × HandlerTable)) :
    Surroundings :=
  let files := (("/dev/stdin", input) :: contents).foldl
    (fun (fs : FileSystem) (path, bytes) => (fs.writeFile path bytes).2) .bare
  let host := services.foldl (fun (h : SocketHost) entry => (h.bind entry.1).2) (.new files)
  { terminal := false
    now := Duration.seconds 86400
    input := .ok input
    readFile := host.files.readFile
    connect := fun path => (host.connect path).1.map fun _ =>
      let service := services.find? fun entry => host.files.node? entry.1 = host.files.node? path
      (service.map (·.2)).getD .empty }

end Surroundings
end FramedRpc.Cli
