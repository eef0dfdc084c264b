namespace WorkloadIdentity

/-- The service that agents reach the server by. -/
def serverServiceName : String := "spire-server"

def serverServicePort : Int := 443

/-- The service account of the agents. -/
def agentName : String := "spire-agent"

/-- The audience of the tokens by which agents prove their node. -/
def agentTokenAudience : String := "spire-server"

/-- The class of the identities that the controller manager looks after. -/
def identityClass (namespaceName : String) : String := namespaceName ++ "-spire"

end WorkloadIdentity
